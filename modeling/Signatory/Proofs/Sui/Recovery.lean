import Signatory.Proofs.Sui.Transfer

/-!
# Transfers are recovered from their bytes

`decode_encode_transfer`: the serialized form of a transfer is decoded as the transfer, its two
addresses spelled in full. So transfers with the same serialized form differ in the spelling of
their addresses only.

`ofTransaction_of_toTransaction` is the step without bytes: each of the two shapes that are built is
recognized as what it was built from.
-/

namespace Signatory.Sui

open Bcs Outcome

namespace Reference

/-- A reference that is required is kept as it is. -/
theorem eq_of_require {field : String} {r : Option Reference} {ref : ObjectRef}
    (h : require field r = .ok ref) : r = some (ofObjectRef ref) := by
  cases r with
  | none => cases h
  | some r =>
    unfold require toObjectRef at h
    dsimp only at h
    split at h
    · cases h
    · split at h
      · cases h
      · cases h
        rfl

end Reference

namespace Transfer

variable {n : Nesting} {t : Transfer} {tx : Transaction}

/-- The transfer with its addresses spelled in full. -/
def spelled (t : Transfer) (recipient sender : Bytes) : Transfer :=
  { t with recipient := Address.format recipient, sender := Address.format sender }

/-- Two transfers that are spelled in full alike differ in the spelling of their addresses only. -/
theorem eq_of_spelled {t t' : Transfer} {recipient sender recipient' sender' : Bytes}
    (hr : recipient.length = addressLength) (hs : sender.length = addressLength)
    (hr' : recipient'.length = addressLength) (hs' : sender'.length = addressLength)
    (h : t'.spelled recipient' sender' = t.spelled recipient sender) :
    t' = { t with recipient := t'.recipient, sender := t'.sender } ∧
      recipient' = recipient ∧ sender' = sender := by
  obtain ⟨amount, object, recipientText, senderText, gasPayment, gasBudget, gasPrice⟩ := t
  obtain ⟨amount', object', recipientText', senderText', gasPayment', gasBudget', gasPrice'⟩ := t'
  injection h with hamount hobject hrecipient hsender hpayment hbudget hprice
  dsimp only at hamount hobject hpayment hbudget hprice
  subst hamount hobject hpayment hbudget hprice
  exact ⟨rfl, Address.format_inj hr' hr hrecipient, Address.format_inj hs' hs hsender⟩

/-! ## Recognizing what was built -/

/-- An amount is written in the eight bytes that it is read from. -/
theorem subject_eq_ok {subject : CallArg} {commands : List Command}
    (h : t.subject = .ok (subject, commands)) :
    (∃ value, t.amount = some (Bytes.leNat value) ∧ value.length = 8 ∧ subject = .pure value ∧
      commands = amountCommands) ∨
    ∃ ref, t.amount = none ∧ t.object = some (Reference.ofObjectRef ref) ∧ subject = .owned ref ∧
      commands = objectCommands := by
  unfold Transfer.subject at h
  split at h
  · rename_i n hamount
    obtain ⟨value, hvalue, h⟩ := Outcome.bind_eq_ok_iff.1 h
    cases h
    obtain ⟨-, hlt, rfl⟩ := uint_eq_done_iff.1 (Emission.result_eq_ok_iff.1 hvalue)
    have hfits : n < Bytes.capacity Width.u64.bytes := by
      unfold Width.limit at hlt
      omega
    refine .inl ⟨_, ?_, Bytes.length_leBytes _ _, rfl, rfl⟩
    rw [hamount, Int.toNat_natCast, Bytes.leNat_leBytes]
    exact congrArg some (Nat.mod_eq_of_lt hfits).symm
  · rename_i hamount
    obtain ⟨ref, href, h⟩ := bind_eq_ok_iff.1 h
    cases h
    exact .inr ⟨ref, hamount, Reference.eq_of_require href, rfl, rfl⟩

/-- A transaction that is built is recognized as the transfer it was built from. -/
theorem ofTransaction_of_toTransaction (h : t.toTransaction = .ok tx) :
    ∃ recipient sender, Address.parse "recipient" t.recipient = .ok recipient ∧
      Address.parse "sender" t.sender = .ok sender ∧
      ofTransaction tx = .ok (t.spelled recipient sender) ∧
      (t.spelled recipient sender).toTransaction = .ok tx := by
  obtain ⟨recipient, sender, gas, subject, commands, hkind, hrecipient, hsender, hgas, hsubject,
    rfl⟩ := toTransaction_eq_ok h
  have hr := Address.length_of_parse hrecipient
  have hs := Address.length_of_parse hsender
  refine ⟨recipient, sender, hrecipient, hsender, ?_,
    toTransaction_of_steps hkind rfl hr rfl hs hgas hsubject⟩
  have hpayment := Reference.eq_of_require hgas
  obtain ⟨amount, object, recipientText, senderText, gasPayment, gasBudget, gasPrice⟩ := t
  dsimp only at hkind hpayment
  subst hpayment
  unfold ofTransaction
  dsimp only
  rw [if_neg (not_not_intro rfl), if_neg (not_not_intro hr)]
  rcases subject_eq_ok hsubject with ⟨value, hamount, hvalue, rfl, rfl⟩ |
    ⟨ref, hamount, hobject, rfl, rfl⟩
  · dsimp only at hamount ⊢
    subst hamount
    cases object with
    | none =>
      rw [if_pos ⟨hvalue, rfl⟩, Int.toNat_natCast, Int.toNat_natCast]
      rfl
    | some object => exact absurd rfl hkind
  · dsimp only at hamount hobject ⊢
    subst hamount hobject
    rw [if_pos rfl, Int.toNat_natCast, Int.toNat_natCast]
    rfl

/-! ## Through the bytes -/

/-- The serialized form of a transfer is decoded as the transaction that was built. -/
theorem exists_decode_of_encode {b : Bytes} (h : t.encode n = .ok b) :
    ∃ tx, t.toTransaction = .ok tx ∧ tx.encode n = .ok b ∧ Transaction.decode n b = .ok tx := by
  obtain ⟨tx, htx, hb⟩ := bind_eq_ok_iff.1 h
  exact ⟨tx, htx, hb, decode_of_encode_built htx hb⟩

/-- A transfer and its addresses spelled in full have one serialized form, which is decoded as the
latter. -/
theorem decode_of_encode {b : Bytes} (h : t.encode n = .ok b) :
    ∃ recipient sender, Address.parse "recipient" t.recipient = .ok recipient ∧
      Address.parse "sender" t.sender = .ok sender ∧
      decode n b = .ok (t.spelled recipient sender) ∧
      (t.spelled recipient sender).encode n = .ok b := by
  obtain ⟨tx, htx, hb, hdecode⟩ := exists_decode_of_encode h
  obtain ⟨recipient, sender, hrecipient, hsender, hof, hto⟩ := ofTransaction_of_toTransaction htx
  exact ⟨recipient, sender, hrecipient, hsender, bind_eq_ok_iff.2 ⟨tx, hdecode, hof⟩,
    bind_eq_ok_iff.2 ⟨tx, hto, hb⟩⟩

/-- The serialized form of a transfer is decoded as the transfer with its addresses spelled in full,
which has the same serialized form. A transfer with this form has some spellings of these addresses
and is the same in all else. -/
theorem decode_encode_transfer {b : Bytes} (h : t.encode n = .ok b) :
    ∃ recipient sender, Address.parse "recipient" t.recipient = .ok recipient ∧
      Address.parse "sender" t.sender = .ok sender ∧
      Address.IsFull (Address.format recipient) ∧ Address.IsFull (Address.format sender) ∧
      Address.parse "recipient" (Address.format recipient) = .ok recipient ∧
      Address.parse "sender" (Address.format sender) = .ok sender ∧
      decode n b = .ok (t.spelled recipient sender) ∧
      (t.spelled recipient sender).encode n = .ok b ∧
      ∀ t', encode n t' = .ok b →
        t' = { t with recipient := t'.recipient, sender := t'.sender } ∧
        Address.parse "recipient" t'.recipient = .ok recipient ∧
        Address.parse "sender" t'.sender = .ok sender := by
  obtain ⟨recipient, sender, hrecipient, hsender, hdecode, hencode⟩ := decode_of_encode h
  have hr := Address.length_of_parse hrecipient
  have hs := Address.length_of_parse hsender
  refine ⟨recipient, sender, hrecipient, hsender, Address.isFull_format hr,
    Address.isFull_format hs, Address.parse_format hr, Address.parse_format hs, hdecode, hencode,
    fun t' h' => ?_⟩
  obtain ⟨recipient', sender', hrecipient', hsender', hdecode', -⟩ := decode_of_encode h'
  obtain ⟨heq, rfl, rfl⟩ := eq_of_spelled hr hs (Address.length_of_parse hrecipient')
    (Address.length_of_parse hsender') (Except.ok.inj (hdecode'.symm.trans hdecode))
  exact ⟨heq, hrecipient', hsender'⟩

/-- A transfer of an object, with a short address, blanks and capital letters. -/
def objectTransfer : Transfer where
  amount := none
  object := some ⟨Bytes.beBytes 32 9, 12, Bytes.beBytes 32 10⟩
  recipient := " 0XBeef "
  sender := "ab"
  gasPayment := some ⟨Bytes.beBytes 32 6, 7, Bytes.beBytes 32 8⟩
  gasBudget := 5000
  gasPrice := 750

theorem decode_encode_objectTransfer : ∃ b, objectTransfer.encode .standard = .ok b ∧
    decode .standard b = .ok (objectTransfer.spelled (Bytes.beBytes 32 0xbeef) (Bytes.beBytes 32 0xab)) := by
  obtain ⟨b, hb⟩ : ∃ b, objectTransfer.encode .standard = .ok b :=
    exists_of_isOk (by decide +kernel)
  obtain ⟨recipient, sender, hrecipient, hsender, -, -, -, -, hdecode, -⟩ :=
    decode_encode_transfer hb
  have hr : Address.parse "recipient" objectTransfer.recipient =
      .ok (Bytes.beBytes 32 0xbeef) := rfl
  have hs : Address.parse "sender" objectTransfer.sender = .ok (Bytes.beBytes 32 0xab) := rfl
  obtain rfl := Except.ok.inj (hr.symm.trans hrecipient)
  obtain rfl := Except.ok.inj (hs.symm.trans hsender)
  exact ⟨b, hb, hdecode⟩

end Transfer

end Signatory.Sui
