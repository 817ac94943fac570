import Signatory.Proofs.Sui.Preparing
import Signatory.Proofs.Sui.Verbatim

/-!
# A transfer signed raw

`prepareRaw_of_prepareTransfer`: the body of a prepared transfer, stated as a raw transaction, is
prepared to the same payload and the same body, for a sender of the same address.

The body is base 64 text. Serialized transactions start with a zero, so the text starts with `A` and
is not taken for hexadecimal (`gives_encode_zero`), and the bytes that are read from it are decoded
as the transaction that was built.
-/

namespace Signatory.Sui

open Bcs Outcome

variable {n : Nesting}

/-! ## Serialized transactions -/

/-- A serialized transaction starts with its version, a zero. -/
theorem TransactionOf.exists_of_write {Tag : Type} {tag : Tag → Emission} {tx : TransactionOf Tag}
    {b : Bytes} (h : tx.write tag = .done b) : ∃ rest, b = 0 :: rest := by
  unfold TransactionOf.write at h
  simp only [Emission.append_assoc] at h
  obtain ⟨version, rest, hversion, -, rfl⟩ := Emission.append_eq_done_iff.1 h
  obtain rfl : [0] = version := congrArg Emission.bytes hversion
  exact ⟨rest, rfl⟩

/-! ## The two ways to state a transfer -/

/-- A raw transaction with the intent of transactions is prepared for the sender that is read from
it. -/
theorem prepareRaw_of_decode {rest : Bytes} {tx : Transaction}
    (h : Transaction.decode n (0 :: rest) = .ok tx) :
    (prepareRaw n ⟨intentText, Text.Base64.encode (0 :: rest)⟩).result =
      .ok ⟨signingMessage transactionIntent (0 :: rest), Text.Base64.encode (0 :: rest),
        some (Address.format tx.sender)⟩ := by
  refine prepareRaw_eq_ok_iff.2 ⟨_, _, some (Address.format tx.sender), gives_intentText,
    gives_encode_zero _ _, fun hdeep => ?_, fun address => ?_, rfl⟩
  · cases h.symm.trans hdeep.2
  constructor
  · intro haddress
    exact ⟨rfl, tx, h, (Option.some.inj haddress).symm⟩
  · rintro ⟨-, tx', htx', rfl⟩
    obtain rfl := Except.ok.inj (h.symm.trans htx')
    rfl

/-- The body of a transfer is signed raw like the transfer: with the same message and preimage, for
the same address. -/
theorem prepareRaw_of_prepareTransfer {t : Transfer} {u : Unsigned String}
    (h : (prepareTransfer n t).result = .ok u) :
    ∃ data v sender address, t.encode n = .ok data ∧ u.payload.preimage = [0, 0, 0] ++ data ∧
      (prepareRaw n ⟨"AAAA", u.body⟩).result = .ok v ∧ v.payload = u.payload ∧ v.body = u.body ∧
      v.sender = some sender ∧ Address.parse "sender" sender = .ok address ∧
      u.sender = some t.sender ∧ Address.parse "sender" t.sender = .ok address := by
  obtain ⟨data, hdata, rfl⟩ := prepareTransfer_eq_ok_iff.1 h
  obtain ⟨tx, htx, hencode, hdecode⟩ := Transfer.exists_decode_of_encode hdata
  obtain ⟨recipient, address, gas, subject, commands, -, -, hsender, -, -, rfl⟩ :=
    Transfer.toTransaction_eq_ok htx
  obtain ⟨rest, rfl⟩ := TransactionOf.exists_of_write (Emission.result_eq_ok_iff.1 hencode)
  exact ⟨_, _, _, address, hdata, rfl, prepareRaw_of_decode hdecode, rfl, rfl, rfl,
    Address.parse_format (Address.length_of_parse hsender), rfl, hsender⟩

/-- A transfer of an amount, its sender written in capitals with blanks around. -/
def coinTransfer : Transfer where
  amount := some 250000
  object := none
  recipient := "0xB0b"
  sender := " 0XA11CE "
  gasPayment := some ⟨Bytes.beBytes 32 3, 4, Bytes.beBytes 32 5⟩
  gasBudget := 10000000
  gasPrice := 1000

theorem prepareRaw_of_coinTransfer :
    ∃ u, (prepareTransfer .standard coinTransfer).result = .ok u ∧
      ∃ v sender, (prepareRaw .standard ⟨"AAAA", u.body⟩).result = .ok v ∧
        v.payload = u.payload ∧ v.body = u.body ∧ v.sender = some sender ∧
        Address.parse "sender" sender = .ok (Bytes.beBytes 32 0xa11ce) := by
  obtain ⟨data, hdata⟩ : ∃ data, coinTransfer.encode .standard = .ok data :=
    exists_of_isOk (by decide +kernel)
  have hu := prepareTransfer_eq_ok_iff.2 ⟨data, hdata, rfl⟩
  obtain ⟨data', v, sender, address, -, -, hv, hpayload, hbody, hvSender, haddress, -, hsender⟩ :=
    prepareRaw_of_prepareTransfer hu
  have hparse : Address.parse "sender" coinTransfer.sender = .ok (Bytes.beBytes 32 0xa11ce) := rfl
  obtain rfl := Except.ok.inj (hparse.symm.trans hsender)
  exact ⟨_, hu, v, sender, hv, hpayload, hbody, hvSender, haddress⟩

end Signatory.Sui
