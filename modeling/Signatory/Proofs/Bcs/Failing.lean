import Signatory.Proofs.Bcs.Written
import Signatory.Proofs.Refusal

/-!
# How writes fail

`Emission.FailsIn P`: the failure that ends a write, if any, is of a kind. Writes of lengths within
their range do not fail, and an integer that does not fit is refused as too large unless it has too
many digits (`Write.failsIn_uint`).
-/

namespace Signatory.Bcs

open Outcome

/-- Every failure of a write is of a kind. -/
def Emission.FailsIn (P : Failure → Prop) (e : Emission) : Prop :=
  ∀ f, e.failure = some f → P f

namespace Emission

variable {P : Failure → Prop}

theorem failsIn_of_none {e : Emission} (h : e.failure = none) : e.FailsIn P := by
  intro f hf
  cases h.symm.trans hf

theorem failsIn_done (bs : Bytes) : (done bs).FailsIn P :=
  failsIn_of_none rfl

theorem failsIn_stop {f : Failure} (h : P f) : (stop f).FailsIn P := by
  intro f' h'
  obtain rfl := Option.some.inj h'
  exact h

theorem FailsIn.append {a b : Emission} (ha : a.FailsIn P) (hb : b.FailsIn P) :
    (a ++ b).FailsIn P := by
  obtain ⟨bytes, failure⟩ := a
  cases failure with
  | none => exact hb
  | some f => exact ha

theorem FailsIn.result {e : Emission} (h : e.FailsIn P) : Outcome.FailsIn P e.result := by
  obtain ⟨bytes, failure⟩ := e
  cases failure with
  | none => exact failsIn_ok bytes
  | some f => exact failsIn_error (h f rfl)

theorem failsIn_concat {es : List Emission} (h : ∀ e ∈ es, e.FailsIn P) :
    (concat es).FailsIn P := by
  induction es with
  | nil => exact failsIn_done []
  | cons e es ih =>
    obtain ⟨he, hes⟩ := List.forall_mem_cons.1 h
    exact he.append (ih hes)

end Emission

namespace Write

variable {P : Failure → Prop}

/-- A length within its range is written. -/
theorem failsIn_length {n : Nat} (hn : n < lengthLimit) : (length n).FailsIn P := by
  unfold length
  rw [if_pos ⟨Int.natCast_nonneg n, Int.ofNat_lt.2 hn⟩]
  exact Emission.failsIn_done _

/-- An integer that is not negative is written if it fits. -/
theorem failsIn_uint {w : Width} {n : Int} (hn : 0 ≤ n) : (uint w n).FailsIn fun f =>
    ¬ w.Holds n ∧
      (f.code? = some .numericOverflow ∨ f = .tooManyDigits ∧ Text.exceedsDigitLimit n = true) := by
  unfold uint
  rw [if_neg (Int.not_lt.2 hn)]
  split
  · exact Emission.failsIn_done _
  · rename_i hlimit
    refine Emission.failsIn_stop ⟨fun h => hlimit h.2, ?_⟩
    unfold misfit
    split
    · rename_i hlong
      exact .inr ⟨rfl, hlong⟩
    · exact .inl rfl

theorem failsIn_byteVec {bs : Bytes} (h : bs.length < lengthLimit) : (byteVec bs).FailsIn P :=
  (failsIn_length h).append (Emission.failsIn_done bs)

theorem failsIn_seq {α : Type} {item : α → Emission} {items : List α}
    (hlength : items.length < lengthLimit) (h : ∀ a ∈ items, (item a).FailsIn P) :
    (seq item items).FailsIn P :=
  (failsIn_length hlength).append (Emission.failsIn_concat (List.forall_mem_map.2 h))

end Write

end Signatory.Bcs
