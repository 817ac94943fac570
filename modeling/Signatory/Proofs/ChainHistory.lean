import Mathlib.Data.List.Induction
import Signatory.Proofs.Registration

/-!
# Histories of chains

The table starts with the built-in chains and takes further ones, of which some are refused. A tag
stands for the chain that was registered last under its normal form.

1. `ChainTable.lookup_afterCalls` says what a history leaves under a key, and
   `ChainTable.isComplete_of_registered?` that every chain in the table has the paths it needs.
2. `ChainTable.settles_afterCalls`: after any calls, a tag and a wanted curve have a curve of the
   chain and its path, or else the two lookups are refused alike.
-/

namespace Signatory

namespace ChainTable

variable {t : ChainTable} {i : ChainInfo} {calls : List ChainInfo} {key : String}

/-- The table after a call. One that is refused leaves it as it was. -/
def afterCall (t : ChainTable) (i : ChainInfo) : ChainTable :=
  match t.register i with
  | .ok t' => t'
  | .error _ => t

def afterCalls (t : ChainTable) (calls : List ChainInfo) : ChainTable :=
  calls.foldl afterCall t

/-- The chain of a key: the last one that was taken under it, or else the built-in one. -/
def registered? (calls : List ChainInfo) (key : String) : Option ChainInfo :=
  (calls.reverse.find? fun i => i.isComplete && Tag.normal i.chain == key).or
    (standard.entries.lookup key)

theorem register_of_isComplete (h : i.isComplete = true) :
    t.register i = .ok ⟨putPair t.entries (Tag.normal i.chain) i⟩ :=
  if_pos h

theorem register_of_not_isComplete (h : ¬ i.isComplete = true) :
    t.register i = .error (.incompletePaths i.chain) :=
  if_neg h

theorem afterCall_of_isComplete (h : i.isComplete = true) :
    t.afterCall i = ⟨putPair t.entries (Tag.normal i.chain) i⟩ := by
  unfold afterCall
  rw [register_of_isComplete h]

theorem afterCall_of_not_isComplete (h : ¬ i.isComplete = true) : t.afterCall i = t := by
  unfold afterCall
  rw [register_of_not_isComplete h]

theorem afterCalls_append_singleton (t : ChainTable) (calls : List ChainInfo) (i : ChainInfo) :
    t.afterCalls (calls ++ [i]) = (t.afterCalls calls).afterCall i :=
  List.foldl_append

theorem lookup_afterCall (t : ChainTable) (i : ChainInfo) (key : String) :
    (t.afterCall i).entries.lookup key =
      if i.isComplete && Tag.normal i.chain == key then some i else t.entries.lookup key := by
  by_cases hi : i.isComplete = true
  · rw [afterCall_of_isComplete hi, hi, Bool.true_and]
    by_cases hkey : Tag.normal i.chain = key
    · rw [if_pos (beq_iff_eq.2 hkey), ← hkey]
      exact lookup_putPair_self
    · rw [if_neg fun h => hkey (beq_iff_eq.1 h)]
      exact lookup_putPair_of_ne (Ne.symm hkey)
  · rw [afterCall_of_not_isComplete hi, Bool.eq_false_iff.2 hi, Bool.false_and]
    rfl

theorem registered?_append_singleton (calls : List ChainInfo) (i : ChainInfo) (key : String) :
    registered? (calls ++ [i]) key =
      if i.isComplete && Tag.normal i.chain == key then some i else registered? calls key := by
  unfold registered?
  rw [List.reverse_append, List.reverse_singleton, List.singleton_append, List.find?_cons]
  cases i.isComplete && Tag.normal i.chain == key <;> rfl

/-- A history leaves the last chain that was taken; by induction on the calls, from the last. -/
theorem lookup_afterCalls (calls : List ChainInfo) (key : String) :
    (standard.afterCalls calls).entries.lookup key = registered? calls key := by
  induction calls using List.reverseRecOn with
  | nil => rfl
  | append_singleton calls i ih =>
    rw [afterCalls_append_singleton, lookup_afterCall, registered?_append_singleton, ih]

/-- Every chain that is registered has the paths that it needs. -/
theorem isComplete_of_registered? (h : registered? calls key = some i) : i.isComplete = true := by
  rcases Option.or_eq_some_iff.1 h with h | ⟨-, h⟩
  · have htaken := List.find?_some h
    exact (Bool.and_eq_true_iff.1 htaken).1
  · have hall : ∀ p ∈ standard.entries, p.2.isComplete = true := by decide
    exact hall (key, i) (mem_of_lookup h)

/-- After any calls, a chain is taken exactly if it has a curve, and a path for every one of its
curves and no other; one that is refused changes nothing. Every tag and wanted curve have their
answer: the curve and its path where the chain that was taken last under the tag's normal form
accepts the curve, and else the same refusal of both. -/
theorem settles_afterCalls (calls : List ChainInfo) :
    let t := standard.afterCalls calls
    (∀ i, (i.IsUsable → t.register i = .ok (standard.afterCalls (calls ++ [i]))) ∧
      (¬ i.IsUsable → standard.afterCalls (calls ++ [i]) = t ∧
        ∃ f, t.register i = .error f ∧ f.kind = .badValue)) ∧
    ∀ chain choice, Settles (registered? calls (Tag.normal chain)) choice
      (t.curveFor (.text chain) choice) (t.defaultPath (.text chain) choice) := by
  intro t
  refine ⟨fun i => ⟨fun hi => ?_, fun hi => ?_⟩, fun chain choice => ?_⟩
  · have hcomplete := (ChainInfo.isComplete_iff i).2 hi
    rw [afterCalls_append_singleton, afterCall_of_isComplete hcomplete]
    exact register_of_isComplete hcomplete
  · have hincomplete := mt (ChainInfo.isComplete_iff i).1 hi
    rw [afterCalls_append_singleton]
    exact ⟨afterCall_of_not_isComplete hincomplete, _, register_of_not_isComplete hincomplete, rfl⟩
  · unfold curveFor defaultPath
    rw [find_text, lookup_afterCalls]
    cases hchain : registered? calls (Tag.normal chain) with
    | none => exact .unsupported rfl rfl
    | some i =>
      exact settles_curveFor ((ChainInfo.isComplete_iff i).1 (isComplete_of_registered? hchain))
        choice

/-- A chain of Sui with one curve only. -/
def p256Only : ChainInfo where
  chain := " sui"
  curves := [.p256]
  paths := [(.p256, "m/1")]

/-- The chain of Sui is replaced under another spelling, and a chain without a path is refused. -/
theorem settles_replaced :
    let t := standard.afterCalls [p256Only, ⟨"SUI", [.stark], []⟩]
    (p256Only.IsUsable ∧ standard.register p256Only = .ok (standard.afterCalls [p256Only])) ∧
    t = standard.afterCalls [p256Only] ∧
    t.curveFor (.text "Sui") (.named "P-256") = .ok .p256 ∧
    t.defaultPath (.text "Sui") (.named "") = .ok "m/1" ∧
    ∃ f, t.defaultPath (.text "sui\n") (.exactly .ed25519) = .error f ∧
      f.code? = some .derivationError ∧ f.field? = some "curve" := by
  intro t
  obtain ⟨htaken, -⟩ := settles_afterCalls []
  obtain ⟨hrefused, -⟩ := settles_afterCalls [p256Only]
  obtain ⟨-, hsettles⟩ := settles_afterCalls [p256Only, ⟨"SUI", [.stark], []⟩]
  have husable : p256Only.IsUsable := (ChainInfo.isComplete_iff _).1 (by decide)
  have hunusable : ¬ ChainInfo.IsUsable ⟨"SUI", [.stark], []⟩ :=
    mt (ChainInfo.isComplete_iff _).2 (by decide)
  have hchain : ∀ chain, Tag.normal chain = "SUI" →
      registered? [p256Only, ⟨"SUI", [.stark], []⟩] (Tag.normal chain) = some p256Only := by
    rintro chain hchain
    rw [hchain]
    decide +kernel
  refine ⟨⟨husable, (htaken p256Only).1 husable⟩, ((hrefused _).2 hunusable).1, ?_, ?_, ?_⟩
  · have h := hsettles "Sui" (.named "P-256")
    rw [hchain "Sui" (by decide +kernel)] at h
    have hasked : (CurveChoice.named "P-256").asked? = some (some .p256) := by decide +kernel
    exact (h.eq_of_asked hasked (by decide) rfl).1
  · have h := hsettles "Sui" (.named "")
    rw [hchain "Sui" (by decide +kernel)] at h
    exact (h.eq_of_first rfl rfl rfl).2
  · have h := hsettles "sui\n" (.exactly .ed25519)
    rw [hchain "sui\n" (by decide +kernel)] at h
    obtain ⟨f, -, hpath, hcode, hfield⟩ := h.exists_of_asked rfl (by decide)
    exact ⟨f, hpath, hcode, hfield⟩

end ChainTable

end Signatory
