import Signatory.Proofs.Journal
import Signatory.Proofs.Sui.Encodable
import Signatory.Sui.Signing

/-!
# Preparing Sui transfers

1. `prepareTransfer_eq_ok_iff`: a transfer is prepared exactly if it is serialized, and for the sender
   that it states.
2. `failsIn_prepareTransfer`: a transfer is refused, unless one of its numbers has too many digits to
   be named in the refusal.
-/

namespace Signatory.Sui

open Outcome

variable {n : Nesting}

theorem result_prepareTransfer (n : Nesting) (t : Transfer) : (prepareTransfer n t).result =
    t.encode n >>= fun data =>
      .ok ⟨signingMessage transactionIntent data, Text.Base64.encode data, some t.sender⟩ := by
  unfold prepareTransfer
  simp only [Traced.result_bind, Traced.result_liftM, Traced.result_debug, Traced.result_pure]
  rfl

/-- What a transfer is prepared to. -/
theorem prepareTransfer_eq_ok_iff {t : Transfer} {u : Unsigned String} :
    (prepareTransfer n t).result = .ok u ↔ ∃ data, t.encode n = .ok data ∧
      u = ⟨signingMessage transactionIntent data, Text.Base64.encode data, some t.sender⟩ := by
  rw [result_prepareTransfer, bind_eq_ok_iff]
  simp only [Except.ok.injEq, eq_comm]

theorem isQuiet_prepareTransfer (n : Nesting) (t : Transfer) : (prepareTransfer n t).IsQuiet := by
  refine (Traced.isQuiet_liftM _).bind fun data => ?_
  exact (Traced.isQuiet_debug _ _).bind fun _ => Traced.isQuiet_pure _

theorem failsIn_prepareTransfer (n : Nesting) (t : Transfer) :
    FailsIn (Failure.RefusesUnless (HasLong t.numbers)) (prepareTransfer n t).result := by
  rw [result_prepareTransfer]
  exact (t.refuses_encode n).bind fun data _ => failsIn_ok _

end Signatory.Sui
