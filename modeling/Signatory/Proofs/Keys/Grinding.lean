import Mathlib.Data.Int.CardIntervalMod
import Signatory.Keys.Grind
import Signatory.Proofs.Bytes

/-!
# Grinding is unbiased

1. `firstFrom_eq_some_iff`: the search ends exactly if some digest is accepted, with the first index
   of one. `key_eq_ok_iff` says so of the key.
2. `card_residue`: among the accepted digests each residue is as frequent as any other, since their
   number is a multiple of the limit.
3. `indexBytes_injective`: no two indexes are digested alike.

`key_unbiased` joins these for every limit up to the number of digests.
-/

namespace Signatory.Grind

variable {hash : Bytes → Nat} {seed : Bytes}

/-! ## The search -/

theorem IsFirst.unique {limit : Int} {i j : Nat} (hi : IsFirst hash seed limit i)
    (hj : IsFirst hash seed limit j) : i = j := by
  refine Nat.le_antisymm (Nat.le_of_not_lt fun hlt => ?_) (Nat.le_of_not_lt fun hlt => ?_)
  · exact absurd hj.accepted (Int.not_lt.2 (hi.refused j hlt))
  · exact absurd hi.accepted (Int.not_lt.2 (hj.refused i hlt))

/-- No candidate is behind an accepted index. -/
theorem Candidate.index_le {limit : Int} {i : Nat} (c : Candidate hash seed limit)
    (h : digestAt hash seed i < bound limit) : c.index ≤ i :=
  Nat.le_of_not_lt fun hlt => absurd h (Int.not_lt.2 (c.refused i hlt))

/-- The search comes closer to an accepted index with each candidate. -/
theorem wellFounded_next {limit : Int} {i : Nat} (h : digestAt hash seed i < bound limit) :
    WellFounded fun later c : Candidate hash seed limit => later.index = c.index + 1 := by
  refine Subrelation.wf (fun {later c} hlater => ?_)
    (measure fun c : Candidate hash seed limit => i - c.index).wf
  have hle := later.index_le h
  show i - later.index < i - c.index
  omega

theorem exists_firstFrom {limit : Int} {i : Nat} (h : digestAt hash seed i < bound limit)
    (c : Candidate hash seed limit) : ∃ first, firstFrom c = some first := by
  induction c using (wellFounded_next h).induction with
  | _ c ih =>
    unfold firstFrom at ih ⊢
    rw [WellFounded.extrinsicFix_eq_apply (wellFounded_next h)]
    split
    · exact ⟨_, rfl⟩
    · exact ih _ rfl

/-- The search gives the first accepted index, if there is one. -/
theorem firstFrom_eq_some_iff {limit : Int} {i : Nat} (c : Candidate hash seed limit) :
    (∃ hfirst, firstFrom c = some ⟨i, hfirst⟩) ↔ IsFirst hash seed limit i := by
  constructor
  · rintro ⟨hfirst, -⟩
    exact hfirst
  · intro hfirst
    obtain ⟨⟨j, hj⟩, hc⟩ := exists_firstFrom hfirst.accepted c
    obtain rfl := hfirst.unique hj
    exact ⟨hj, hc⟩

theorem key_of_isFirst {limit : Int} {i : Nat} (hlimit : limit ≠ 0)
    (h : IsFirst hash seed limit i) :
    key hash seed limit = .ok (Int.fmod (digestAt hash seed i) limit) := by
  obtain ⟨hfirst, hsearch⟩ := (firstFrom_eq_some_iff .zero).2 h
  unfold key
  rw [if_neg hlimit, hsearch]

theorem key_eq_ok_iff_isFirst {limit k : Int} (hlimit : limit ≠ 0) :
    key hash seed limit = .ok k ↔
      ∃ i, IsFirst hash seed limit i ∧ k = Int.fmod (digestAt hash seed i) limit := by
  constructor
  · intro h
    unfold key at h
    rw [if_neg hlimit] at h
    split at h
    · rename_i first _
      exact ⟨first, first.2, (Except.ok.inj h).symm⟩
    · cases h
  · rintro ⟨i, hi, rfl⟩
    exact key_of_isFirst hlimit hi

/-! ## Accepted digests -/

/-- The number of accepted digests: the largest multiple of the limit that is no more than the
number of digests. -/
def accepted (limit : Nat) : Nat :=
  Bytes.capacity 32 - Bytes.capacity 32 % limit

theorem bound_natCast (limit : Nat) : bound limit = accepted limit := by
  have hmod : Int.fmod (Bytes.capacity 32) limit = (Bytes.capacity 32 % limit : Nat) :=
    (Int.ofNat_fmod _ _).symm
  unfold bound accepted
  dsimp only
  rw [hmod, Int.ofNat_sub (Nat.mod_le _ _)]

theorem accepted_eq (limit : Nat) : accepted limit = limit * (Bytes.capacity 32 / limit) := by
  have hdivision := Nat.div_add_mod (Bytes.capacity 32) limit
  unfold accepted
  omega

theorem dvd_accepted (limit : Nat) : limit ∣ accepted limit :=
  ⟨_, accepted_eq limit⟩

theorem accepted_pos {limit : Nat} (hpos : 0 < limit) (hle : limit ≤ Bytes.capacity 32) :
    0 < accepted limit := by
  rw [accepted_eq]
  exact Nat.mul_pos hpos (Nat.div_pos hle hpos)

/-- Below a multiple of the limit all residues are equally frequent. -/
theorem card_residue {limit multiple r : Nat} (hr : r < limit) (hdvd : limit ∣ multiple) :
    ((Finset.range multiple).filter fun d => d % limit = r).card = multiple / limit := by
  have hcount := Nat.count_modEq_card multiple (Nat.zero_lt_of_lt hr) r
  rw [Nat.mod_eq_zero_of_dvd hdvd, if_neg (Nat.not_lt_zero _), Nat.add_zero,
    Nat.count_eq_card_filter_range] at hcount
  rw [← hcount]
  refine congrArg Finset.card (Finset.filter_congr fun d _ => ?_)
  unfold Nat.ModEq
  rw [Nat.mod_eq_of_lt hr]

theorem isFirst_iff {limit i : Nat} :
    IsFirst hash seed limit i ↔ IsLeast {i | digestAt hash seed i < accepted limit} i := by
  constructor
  · rintro ⟨haccepted, hrefused⟩
    rw [bound_natCast, Int.ofNat_lt] at haccepted
    refine ⟨haccepted, fun j hj => Nat.le_of_not_lt fun hlt => ?_⟩
    have hle := hrefused j hlt
    rw [bound_natCast, Int.ofNat_le] at hle
    exact absurd hj (Nat.not_lt.2 hle)
  · rintro ⟨haccepted, hleast⟩
    refine ⟨?_, fun j hlt => ?_⟩
    · rw [bound_natCast]
      exact Int.ofNat_lt.2 haccepted
    · rw [bound_natCast]
      exact Int.ofNat_le.2 (Nat.le_of_not_lt fun hj => Nat.not_le.2 hlt (hleast hj))

/-- A key is the residue of the first accepted digest. -/
theorem key_eq_ok_iff {limit : Nat} (hpos : 0 < limit) {k : Int} :
    key hash seed limit = .ok k ↔
      ∃ i, IsLeast {i | digestAt hash seed i < accepted limit} i ∧
        k = (digestAt hash seed i % limit : Nat) := by
  have hlimit : (limit : Int) ≠ 0 := Int.natCast_ne_zero.2 (Nat.ne_of_gt hpos)
  simp only [key_eq_ok_iff_isFirst hlimit, isFirst_iff, Int.ofNat_fmod]

/-! ## Digested indexes -/

theorem beNat_indexBytes (i : Nat) : Bytes.beNat (indexBytes i) = i := by
  unfold indexBytes
  split
  · rename_i h
    rw [h]
    rfl
  · exact Bytes.beNat_minimal i

/-- An index takes a byte at least, and otherwise as few as its number needs. -/
theorem length_indexBytes_le {bs : Bytes} (hne : bs ≠ []) :
    (indexBytes (Bytes.beNat bs)).length ≤ bs.length := by
  unfold indexBytes
  split
  · exact List.length_pos_iff.2 hne
  · exact Bytes.length_minimal_le bs

theorem indexBytes_ne_nil (i : Nat) : indexBytes i ≠ [] := by
  unfold indexBytes
  split
  · exact List.cons_ne_nil _ _
  · rename_i hi
    intro hnil
    have hnumber := Bytes.beNat_minimal i
    rw [hnil] at hnumber
    exact hi hnumber.symm

theorem indexBytes_injective : Function.Injective indexBytes := by
  intro i j h
  rw [← beNat_indexBytes i, h, beNat_indexBytes]

/-! ## Keys -/

/-- For every limit up to the number of digests: there is a key exactly if some digest is accepted,
and it is the residue of the first one. The accepted digests are a positive multiple of the limit,
so that no residue is preferred. Each index is digested in its shortest form behind the seed, and no
two of them alike. -/
theorem key_unbiased (hash : Bytes → Nat) (seed : Bytes) {limit : Nat} (hpos : 0 < limit)
    (hle : limit ≤ Bytes.capacity 32) :
    ((∃ k, key hash seed limit = .ok k) ↔ ∃ i, digestAt hash seed i < accepted limit) ∧
    (∀ k, key hash seed limit = .ok k →
      (∃ i, IsLeast {i | digestAt hash seed i < accepted limit} i ∧
        k = (digestAt hash seed i % limit : Nat)) ∧ 0 ≤ k ∧ k < limit) ∧
    (0 < accepted limit ∧ limit ∣ accepted limit ∧ ∀ r < limit,
      ((Finset.range (accepted limit)).filter fun d => d % limit = r).card =
        accepted limit / limit) ∧
    (∀ i, digestAt hash seed i = hash (seed ++ indexBytes i) ∧ Bytes.beNat (indexBytes i) = i ∧
      indexBytes i ≠ [] ∧ ∀ bs, bs ≠ [] → Bytes.beNat bs = i →
        (indexBytes i).length ≤ bs.length) ∧
    Function.Injective fun i => seed ++ indexBytes i := by
  refine ⟨⟨?_, ?_⟩, fun k hk => ?_, ?_, fun i => ?_, fun i j h => ?_⟩
  · rintro ⟨k, hk⟩
    obtain ⟨i, hi, -⟩ := (key_eq_ok_iff hpos).1 hk
    exact ⟨i, hi.1⟩
  · intro hsome
    exact ⟨_, (key_eq_ok_iff hpos).2 ⟨Nat.find hsome, Nat.isLeast_find hsome, rfl⟩⟩
  · obtain ⟨i, hi, rfl⟩ := (key_eq_ok_iff hpos).1 hk
    exact ⟨⟨i, hi, rfl⟩, Int.natCast_nonneg _, Int.ofNat_lt.2 (Nat.mod_lt _ hpos)⟩
  · exact ⟨accepted_pos hpos hle, dvd_accepted limit, fun r hr =>
      card_residue hr (dvd_accepted limit)⟩
  · refine ⟨rfl, beNat_indexBytes i, indexBytes_ne_nil i, ?_⟩
    rintro bs hne rfl
    exact length_indexBytes_le hne
  · exact indexBytes_injective (List.append_cancel_left h)

/-- A digest that is refused for the first index, which is a zero byte. -/
def refusesZero (bs : Bytes) : Nat :=
  if bs.getLast? = some 0 then Bytes.capacity 32 - 1 else Bytes.beNat bs

theorem key_unbiased_refusesZero :
    0 < 7 ∧ 7 ≤ Bytes.capacity 32 ∧ key refusesZero [9] (7 : Nat) = .ok 2 := by
  have hle : 7 ≤ Bytes.capacity 32 := by decide
  obtain ⟨hends, hleast, -⟩ := key_unbiased refusesZero [9] (by decide : 0 < 7) hle
  obtain ⟨k, hk⟩ := hends.2 ⟨1, by decide⟩
  obtain ⟨⟨i, hi, rfl⟩, -⟩ := hleast k hk
  have hone : IsLeast {i | digestAt refusesZero [9] i < accepted 7} 1 := by
    refine ⟨show digestAt refusesZero [9] 1 < accepted 7 by decide, fun j hj => ?_⟩
    refine Nat.pos_of_ne_zero fun hzero => ?_
    rw [hzero] at hj
    exact absurd hj (show ¬ digestAt refusesZero [9] 0 < accepted 7 by decide)
  rw [hi.unique hone] at hk
  exact ⟨by decide, hle, hk⟩

end Signatory.Grind
