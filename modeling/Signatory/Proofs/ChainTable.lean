import Signatory.ChainTable
import Signatory.Proofs.Outcome

/-!
# Tables of chains that are in use

A table in use is the standard one with chains registered in it.

1. `ChainInfo.isComplete_iff` says which chains are taken: those with a path for every one of their
   curves. Such a chain answers for every wanted curve (`settles_curveFor`).
2. `IsReached.serves`: the two built-in chains stay in the table. So their curves and default paths
   are refused only for lack of the curve (`code_of_findCurve`, `code_of_defaultPath`).
-/

namespace Signatory

open Outcome

/-! ## Lists of pairs -/

section Pairs

variable {α β : Type} [BEq α] [LawfulBEq α] {pairs : List (α × β)} {key k : α} {value : β}

theorem mem_of_lookup (h : pairs.lookup key = some value) : (key, value) ∈ pairs := by
  obtain ⟨before, after, rfl, -⟩ := List.lookup_eq_some_iff.1 h
  exact List.mem_append_right _ List.mem_cons_self

theorem lookup_putPair_self : (putPair pairs key value).lookup key = some value := by
  unfold putPair
  split
  · rename_i hany
    induction pairs with
    | nil => cases hany
    | cons p pairs ih =>
      rw [List.map_cons]
      by_cases hp : (p.1 == key) = true
      · rw [if_pos hp, List.lookup_cons_self]
      · rw [List.any_cons, Bool.eq_false_iff.2 hp, Bool.false_or] at hany
        have hne : (key == p.1) = false := by
          rw [beq_eq_false_iff_ne]
          exact fun h => hp (beq_iff_eq.2 h.symm)
        rw [if_neg hp, List.lookup_cons, hne]
        exact ih hany
  · rename_i hany
    have hnone : pairs.lookup key = none := by
      refine List.lookup_eq_none_iff.2 fun p hp => ?_
      rw [bne_iff_ne]
      exact fun h => hany (List.any_eq_true.2 ⟨p, hp, beq_iff_eq.2 h.symm⟩)
    rw [List.lookup_append, hnone, List.lookup_cons_self]
    rfl

theorem lookup_putPair_of_ne (h : k ≠ key) :
    (putPair pairs key value).lookup k = pairs.lookup k := by
  have hk : (k == key) = false := beq_eq_false_iff_ne.2 h
  unfold putPair
  split
  · rename_i hany
    clear hany
    induction pairs with
    | nil => rfl
    | cons p pairs ih =>
      rw [List.map_cons, List.lookup_cons]
      by_cases hp : (p.1 == key) = true
      · rw [if_pos hp, List.lookup_cons, hk, ih, beq_iff_eq.1 hp, hk]
      · rw [if_neg hp, List.lookup_cons, ih]
  · rw [List.lookup_append, List.lookup_cons, hk, List.lookup_nil, Option.or_none]

end Pairs

/-! ## Chains -/

namespace ChainInfo

variable {i : ChainInfo} {c : Curve}

/-- A chain has a curve, and a path for every one of its curves and no other. -/
def IsUsable (i : ChainInfo) : Prop :=
  i.curves ≠ [] ∧ ∀ c, c ∈ i.curves ↔ ∃ path, (c, path) ∈ i.paths

theorem isSome_lookup_iff (i : ChainInfo) (c : Curve) :
    (i.paths.lookup c).isSome = true ↔ ∃ path, (c, path) ∈ i.paths := by
  rw [List.lookup_isSome_iff]
  constructor
  · rintro ⟨⟨c', path⟩, hp, hc⟩
    obtain rfl := beq_iff_eq.1 hc
    exact ⟨path, hp⟩
  · rintro ⟨path, hp⟩
    exact ⟨(c, path), hp, beq_self_eq_true c⟩

theorem isComplete_iff (i : ChainInfo) : i.isComplete = true ↔ i.IsUsable := by
  unfold isComplete IsUsable
  rw [Bool.and_eq_true, Bool.and_eq_true, Bool.not_eq_true', List.isEmpty_eq_false_iff,
    List.all_eq_true, List.all_eq_true, and_assoc]
  refine and_congr_right fun _ => ⟨?_, fun h => ⟨fun c hc => ?_, fun p hp => ?_⟩⟩
  · rintro ⟨hcurves, hpaths⟩ c
    refine ⟨fun hc => (isSome_lookup_iff i c).1 (hcurves c hc), ?_⟩
    rintro ⟨path, hp⟩
    exact List.contains_iff_mem.1 (hpaths _ hp)
  · exact (isSome_lookup_iff i c).2 ((h c).1 hc)
  · exact List.contains_iff_mem.2 ((h p.1).2 ⟨p.2, hp⟩)

theorem IsUsable.exists_path (hi : i.IsUsable) (hc : c ∈ i.curves) :
    ∃ path, i.paths.lookup c = some path :=
  Option.isSome_iff_exists.1 ((isSome_lookup_iff i c).2 ((hi.2 c).1 hc))

theorem pathOf_of_lookup {path : String} (h : i.paths.lookup c = some path) :
    i.pathOf c = .ok path := by
  unfold pathOf
  rw [h]

theorem defaultCurve_of_curves {cs : List Curve} (h : i.curves = c :: cs) :
    i.defaultCurve = .ok c := by
  unfold defaultCurve
  rw [h]

theorem accept_of_mem (h : c ∈ i.curves) : i.accept c = .ok c :=
  if_pos (List.contains_iff_mem.2 h)

theorem accept_of_notMem (h : c ∉ i.curves) :
    i.accept c = .error (.curveNotAccepted i.chain c) :=
  if_neg fun hc => h (List.contains_iff_mem.1 hc)

theorem eq_of_accept {c' : Curve} (h : i.accept c' = .ok c) : c = c' := by
  unfold accept at h
  split at h
  · exact (Except.ok.inj h).symm
  · cases h

theorem mem_of_accept {c' : Curve} (h : i.accept c' = .ok c) : c ∈ i.curves := by
  unfold accept at h
  split at h
  · rename_i hmem
    rw [← Except.ok.inj h]
    exact List.contains_iff_mem.1 hmem
  · cases h

theorem mem_of_defaultCurve (h : i.defaultCurve = .ok c) : c ∈ i.curves := by
  unfold defaultCurve at h
  split at h
  · rename_i hcurves
    rw [← Except.ok.inj h, hcurves]
    exact List.mem_cons_self
  · cases h

/-- The curve for what is wanted is one of the chain. -/
theorem mem_of_curveFor {choice : CurveChoice} (h : i.curveFor choice = .ok c) : c ∈ i.curves := by
  unfold curveFor at h
  split at h
  · exact mem_of_defaultCurve h
  · split at h
    · exact mem_of_defaultCurve h
    · split at h
      · exact mem_of_accept h
      · cases h
  · exact mem_of_accept h

end ChainInfo

/-! ## Answers -/

/-- The curve that is asked for: none in particular, or the one of a name, which may have none. -/
def CurveChoice.asked? : CurveChoice → Option (Option Curve)
  | .unspecified => none
  | .named name => if name = "" then none else some (Curve.parse? name)
  | .exactly c => some (some c)

/-- What the two lookups answer for the chain of a tag and a wanted curve: the curve and its path,
or a refusal. -/
inductive Settles : Option ChainInfo → CurveChoice → Except Failure Curve →
    Except Failure String → Prop
  | first {i : ChainInfo} {choice : CurveChoice} {c : Curve} {cs : List Curve} {path : String}
      (hasked : choice.asked? = none) (hcurves : i.curves = c :: cs)
      (hpath : i.paths.lookup c = some path) : Settles (some i) choice (.ok c) (.ok path)
  | asked {i : ChainInfo} {choice : CurveChoice} {c : Curve} {path : String}
      (hasked : choice.asked? = some (some c)) (hmem : c ∈ i.curves)
      (hpath : i.paths.lookup c = some path) : Settles (some i) choice (.ok c) (.ok path)
  | notAccepted {i : ChainInfo} {choice : CurveChoice} {curve? : Option Curve} {f : Failure}
      (hasked : choice.asked? = some curve?) (hnone : ∀ c ∈ curve?, c ∉ i.curves)
      (hcode : f.code? = some .derivationError) (hfield : f.field? = some "curve") :
      Settles (some i) choice (.error f) (.error f)
  | unsupported {choice : CurveChoice} {f : Failure} (hcode : f.code? = some .unsupportedChain)
      (hfield : f.field? = some "chain") : Settles none choice (.error f) (.error f)

section Answers

variable {i : ChainInfo} {choice : CurveChoice} {curve : Except Failure Curve}
  {path : Except Failure String} {c : Curve} {p : String}

theorem Settles.eq_of_first {cs : List Curve} (h : Settles (some i) choice curve path)
    (hasked : choice.asked? = none) (hcurves : i.curves = c :: cs)
    (hpath : i.paths.lookup c = some p) : curve = .ok c ∧ path = .ok p := by
  cases h with
  | first _ hcurves' hpath' =>
    obtain ⟨rfl, -⟩ := List.cons_eq_cons.1 (hcurves'.symm.trans hcurves)
    obtain rfl := Option.some.inj (hpath'.symm.trans hpath)
    exact ⟨rfl, rfl⟩
  | asked hasked' => exact nomatch hasked.symm.trans hasked'
  | notAccepted hasked' => exact nomatch hasked.symm.trans hasked'

theorem Settles.eq_of_asked (h : Settles (some i) choice curve path)
    (hasked : choice.asked? = some (some c)) (hmem : c ∈ i.curves)
    (hpath : i.paths.lookup c = some p) : curve = .ok c ∧ path = .ok p := by
  cases h with
  | first hasked' => exact nomatch hasked'.symm.trans hasked
  | asked hasked' _ hpath' =>
    cases hasked'.symm.trans hasked
    obtain rfl := Option.some.inj (hpath'.symm.trans hpath)
    exact ⟨rfl, rfl⟩
  | notAccepted hasked' hnone =>
    cases hasked'.symm.trans hasked
    exact absurd hmem (hnone c rfl)

theorem Settles.exists_of_asked (h : Settles (some i) choice curve path) {curve? : Option Curve}
    (hasked : choice.asked? = some curve?) (hnone : ∀ c ∈ curve?, c ∉ i.curves) :
    ∃ f, curve = .error f ∧ path = .error f ∧ f.code? = some .derivationError ∧
      f.field? = some "curve" := by
  cases h with
  | first hasked' => exact nomatch hasked'.symm.trans hasked
  | asked hasked' hmem =>
    cases hasked'.symm.trans hasked
    exact absurd hmem (hnone _ rfl)
  | notAccepted _ _ hcode hfield => exact ⟨_, rfl, rfl, hcode, hfield⟩

theorem Settles.code_of_curve {f : Failure} (h : Settles (some i) choice (.error f) path) :
    f.code? = some .derivationError := by
  cases h with
  | notAccepted _ _ hcode => exact hcode

theorem Settles.code_of_path {f : Failure} (h : Settles (some i) choice curve (.error f)) :
    f.code? = some .derivationError := by
  cases h with
  | notAccepted _ _ hcode => exact hcode

theorem settles_defaultCurve (hi : i.IsUsable) (hasked : choice.asked? = none) :
    Settles (some i) choice i.defaultCurve (i.defaultCurve >>= i.pathOf) := by
  obtain ⟨c, cs, hcurves⟩ := List.exists_cons_of_ne_nil hi.1
  obtain ⟨path, hpath⟩ := hi.exists_path (hcurves ▸ List.mem_cons_self)
  have hcurve := ChainInfo.defaultCurve_of_curves hcurves
  rw [bind_eq_ok_iff.2 ⟨c, hcurve, ChainInfo.pathOf_of_lookup hpath⟩, hcurve]
  exact .first hasked hcurves hpath

theorem settles_accept {c : Curve} (hi : i.IsUsable) (hasked : choice.asked? = some (some c)) :
    Settles (some i) choice (i.accept c) (i.accept c >>= i.pathOf) := by
  by_cases hmem : c ∈ i.curves
  · obtain ⟨path, hpath⟩ := hi.exists_path hmem
    have hcurve := ChainInfo.accept_of_mem hmem
    rw [bind_eq_ok_iff.2 ⟨c, hcurve, ChainInfo.pathOf_of_lookup hpath⟩, hcurve]
    exact .asked hasked hmem hpath
  · rw [ChainInfo.accept_of_notMem hmem]
    refine .notAccepted hasked ?_ rfl rfl
    rintro c' hc'
    rwa [← Option.some.inj hc']

/-- A chain with the paths it needs answers for every wanted curve. -/
theorem settles_curveFor (hi : i.IsUsable) (choice : CurveChoice) :
    Settles (some i) choice (i.curveFor choice) (i.curveFor choice >>= i.pathOf) := by
  cases choice with
  | unspecified => exact settles_defaultCurve hi rfl
  | exactly c => exact settles_accept hi rfl
  | named name =>
    unfold ChainInfo.curveFor
    by_cases hname : name = ""
    · rw [hname]
      exact settles_defaultCurve hi rfl
    · have hasked : (CurveChoice.named name).asked? = some (Curve.parse? name) := if_neg hname
      dsimp only
      rw [if_neg fun h => hname (String.isEmpty_iff.1 h)]
      cases hcurve : Curve.parse? name with
      | some c => exact settles_accept hi (hasked.trans (congrArg some hcurve))
      | none =>
        exact .notAccepted (hasked.trans (congrArg some hcurve)) (fun _ hc => nomatch hc) rfl rfl

end Answers

/-! ## Tables -/

namespace ChainTable

variable {t : ChainTable}

/-- A table that registrations lead to. -/
inductive IsReached : ChainTable → Prop
  | standard : IsReached .standard
  | register {t t' : ChainTable} {i : ChainInfo} (ht : IsReached t) (h : t.register i = .ok t') :
    IsReached t'

/-- A chain is in the table, with a path for each of its curves. -/
def Serves (t : ChainTable) (chain : String) : Prop :=
  ∃ i, t.entries.lookup chain = some i ∧ i.isComplete = true

theorem Serves.register {t' : ChainTable} {i : ChainInfo} {chain : String} (h : t.Serves chain)
    (hr : t.register i = .ok t') : t'.Serves chain := by
  unfold ChainTable.register at hr
  split at hr
  · rename_i hi
    cases hr
    by_cases hchain : chain = Tag.normal i.chain
    · exact ⟨i, hchain ▸ lookup_putPair_self, hi⟩
    · obtain ⟨j, hj, hcomplete⟩ := h
      exact ⟨j, (lookup_putPair_of_ne hchain).trans hj, hcomplete⟩
  · cases hr

/-- The built-in chains are always served. -/
theorem IsReached.serves (h : t.IsReached) {chain : String}
    (hchain : chain = "SUI" ∨ chain = "STARKNET") : t.Serves chain := by
  induction h with
  | standard =>
    rcases hchain with rfl | rfl
    · exact ⟨.sui, rfl, by decide⟩
    · exact ⟨.starknet, rfl, by decide⟩
  | register _ hr ih => exact ih.register hr

/-- A curve that is asked for as such is the answer. -/
theorem eq_of_curveFor_exactly {tag : Value} {c c' : Curve}
    (h : t.curveFor tag (.exactly c') = .ok c) : c = c' := by
  obtain ⟨i, -, h⟩ := bind_eq_ok_iff.1 h
  exact ChainInfo.eq_of_accept h

/-- The default path is the same when the curve is asked for that is used anyway. -/
theorem defaultPath_exactly {tag : Value} {choice : CurveChoice} {c : Curve}
    (h : t.curveFor tag choice = .ok c) :
    t.defaultPath tag (.exactly c) = t.defaultPath tag choice := by
  obtain ⟨i, hfind, hcurve⟩ := bind_eq_ok_iff.1 h
  have haccept : i.curveFor (.exactly c) = .ok c :=
    ChainInfo.accept_of_mem (ChainInfo.mem_of_curveFor hcurve)
  unfold defaultPath
  rw [hfind]
  exact (bind_of_eq_ok haccept _).trans (bind_of_eq_ok hcurve _).symm

theorem exists_find {chain : String} (hs : t.Serves chain)
    (hchain : Tag.ofValue (.text chain) = .ok chain) :
    ∃ i, t.find (.text chain) = .ok i ∧ i.isComplete = true := by
  obtain ⟨i, hi, hcomplete⟩ := hs
  refine ⟨i, bind_eq_ok_iff.2 ⟨chain, hchain, ?_⟩, hcomplete⟩
  rw [hi]
  rfl

/-- A chain that is served answers for every wanted curve. -/
theorem exists_settles {chain : String} (hs : t.Serves chain)
    (hchain : Tag.ofValue (.text chain) = .ok chain) (choice : CurveChoice) :
    ∃ i, Settles (some i) choice (t.curveFor (.text chain) choice)
      (t.defaultPath (.text chain) choice) := by
  obtain ⟨i, hfind, hcomplete⟩ := exists_find hs hchain
  refine ⟨i, ?_⟩
  unfold curveFor defaultPath
  rw [hfind]
  exact settles_curveFor ((ChainInfo.isComplete_iff i).1 hcomplete) choice

/-- It refuses a curve only for lack of it. -/
theorem code_of_findCurve {chain : String} {choice : CurveChoice} {e : Failure}
    (hs : t.Serves chain) (hchain : Tag.ofValue (.text chain) = .ok chain)
    (h : t.curveFor (.text chain) choice = .error e) : e.code? = some .derivationError := by
  obtain ⟨i, hsettles⟩ := exists_settles hs hchain choice
  rw [h] at hsettles
  exact hsettles.code_of_curve

/-- Its default path is refused only for lack of the curve. -/
theorem code_of_defaultPath {chain : String} {choice : CurveChoice} {e : Failure}
    (hs : t.Serves chain) (hchain : Tag.ofValue (.text chain) = .ok chain)
    (h : t.defaultPath (.text chain) choice = .error e) : e.code? = some .derivationError := by
  obtain ⟨i, hsettles⟩ := exists_settles hs hchain choice
  rw [h] at hsettles
  exact hsettles.code_of_path

end ChainTable

end Signatory
