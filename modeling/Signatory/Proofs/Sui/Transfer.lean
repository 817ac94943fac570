import Signatory.Proofs.Sui.Canonical
import Signatory.Sui.Transfer

/-!
# Transfers that are decoded

`encode_decode_transfer_iff`: the transfer that serialized data is decoded as has this serialized
form exactly if the data does not expire and the digests in it have their length. `decode` checks
neither; whatever it refuses it refuses as malformed, and it gives up long data only.

1. `sized_of_toTransaction`: a transaction that is built has both properties.
2. `toTransaction_of_ofTransaction`: a transaction with both is built again from its transfer.
-/

namespace Signatory.Sui

open Bcs Outcome

/-! ## Digests -/

def CallArg.digests : CallArg → List Bytes
  | owned ref | receiving ref => [ref.digest]
  | pure _ | shared _ _ _ | foreign _ => []

/-- The digests of the gas coins and of the objects. -/
def TransactionOf.digests {Tag : Type} (tx : TransactionOf Tag) : List Bytes :=
  tx.gas.payment.map ObjectRef.digest ++ tx.inputs.flatMap CallArg.digests

/-! ## References -/

namespace Reference

theorem toObjectRef_eq_ok {field : String} {r : Reference} {ref : ObjectRef}
    (h : r.toObjectRef field = .ok ref) :
    ref.id.length = addressLength ∧ ref.digest.length = addressLength := by
  unfold toObjectRef at h
  split at h
  · cases h
  · rename_i hid
    split at h
    · cases h
    · rename_i hdigest
      cases h
      exact ⟨Decidable.not_not.1 hid, Decidable.not_not.1 hdigest⟩

theorem require_eq_ok {field : String} {r : Option Reference} {ref : ObjectRef}
    (h : require field r = .ok ref) :
    ref.id.length = addressLength ∧ ref.digest.length = addressLength := by
  cases r with
  | none => cases h
  | some r => exact toObjectRef_eq_ok h

theorem require_ofObjectRef {field : String} {ref : ObjectRef} (hid : ref.id.length = addressLength)
    (hversion : 0 ≤ ref.version) (hdigest : ref.digest.length = addressLength) :
    require field (some (ofObjectRef ref)) = .ok ref := by
  unfold require toObjectRef ofObjectRef
  dsimp only
  rw [if_neg (Decidable.not_not.2 hid), if_neg (Decidable.not_not.2 hdigest),
    Int.toNat_of_nonneg hversion]

end Reference

/-! ## Transactions that are built -/

namespace Transfer

variable {t : Transfer} {tx : Transaction}

/-- The commands of a transfer mention neither addresses nor types. -/
theorem plain_amountCommands : amountCommands.flatMap CommandOf.addresses = [] ∧
    amountCommands.flatMap CommandOf.typeTags = [] := by
  unfold amountCommands
  exact ⟨rfl, rfl⟩

theorem plain_objectCommands : objectCommands.flatMap CommandOf.addresses = [] ∧
    objectCommands.flatMap CommandOf.typeTags = [] := by
  unfold objectCommands
  exact ⟨rfl, rfl⟩

theorem sized_of_subject {subject : CallArg} {commands : List Command}
    (h : t.subject = .ok (subject, commands)) :
    AllSized subject.addresses ∧ AllSized subject.digests ∧
      commands.flatMap CommandOf.addresses = [] ∧ commands.flatMap CommandOf.typeTags = [] := by
  unfold Transfer.subject at h
  split at h
  · rename_i n _
    cases hamount : (Write.uint .u64 n).result with
    | error e =>
      rw [hamount] at h
      cases h
    | ok amount =>
      rw [hamount] at h
      cases h
      exact ⟨allSized_nil, allSized_nil, plain_amountCommands⟩
  · obtain ⟨ref, href, h⟩ := bind_eq_ok_iff.1 h
    cases h
    obtain ⟨hid, hdigest⟩ := Reference.require_eq_ok href
    exact ⟨allSized_singleton.2 hid, allSized_singleton.2 hdigest, plain_objectCommands⟩

/-- What a transaction is built of. -/
theorem toTransaction_eq_ok (h : t.toTransaction = .ok tx) :
    ∃ recipient sender gas subject commands, t.amount.isNone ≠ t.object.isNone ∧
      Address.parse "recipient" t.recipient = .ok recipient ∧
      Address.parse "sender" t.sender = .ok sender ∧
      Reference.require "gas_payment" t.gasPayment = .ok gas ∧
      t.subject = .ok (subject, commands) ∧
      tx = ⟨[.pure recipient, subject], commands, sender,
        ⟨[gas], sender, t.gasPrice, t.gasBudget⟩, none⟩ := by
  unfold toTransaction at h
  split at h
  · cases h
  · rename_i hkind
    obtain ⟨recipient, hrecipient, h⟩ := bind_eq_ok_iff.1 h
    obtain ⟨sender, hsender, h⟩ := bind_eq_ok_iff.1 h
    obtain ⟨gas, hgas, h⟩ := bind_eq_ok_iff.1 h
    obtain ⟨⟨subject, commands⟩, hsubject, h⟩ := bind_eq_ok_iff.1 h
    cases h
    exact ⟨recipient, sender, gas, subject, commands, hkind, hrecipient, hsender, hgas, hsubject,
      rfl⟩

/-- A transaction that is built does not expire, and its addresses and digests have their
length. -/
theorem sized_of_toTransaction (h : t.toTransaction = .ok tx) :
    tx.expiration = none ∧ AllSized tx.addresses ∧ AllSized tx.digests := by
  obtain ⟨recipient, sender, gas, subject, commands, -, -, hsender, hgas, hsubject, rfl⟩ :=
    toTransaction_eq_ok h
  have hs : sender.length = addressLength := Address.length_of_parse hsender
  obtain ⟨hgasId, hgasDigest⟩ := Reference.require_eq_ok hgas
  obtain ⟨haddresses, hdigests, hcommands, -⟩ := sized_of_subject hsubject
  refine ⟨rfl, ?_, ?_⟩
  · intro a ha
    simp only [TransactionOf.addresses, GasData.addresses, ObjectRef.addresses,
      CallArg.addresses, hcommands, List.flatMap_cons, List.flatMap_nil, List.append_nil,
      List.nil_append, List.cons_append, List.mem_cons] at ha
    rcases ha with rfl | rfl | rfl | ha
    · exact hs
    · exact hs
    · exact hgasId
    · exact haddresses a ha
  · intro d hd
    simp only [TransactionOf.digests, CallArg.digests, List.map_cons, List.map_nil,
      List.flatMap_cons, List.flatMap_nil, List.append_nil, List.nil_append, List.cons_append,
      List.mem_cons] at hd
    rcases hd with rfl | hd
    · exact hgasDigest
    · exact hdigests d hd

theorem typeTags_of_toTransaction (h : t.toTransaction = .ok tx) : tx.typeTags = [] := by
  obtain ⟨_, _, _, _, _, -, -, -, -, hsubject, rfl⟩ := toTransaction_eq_ok h
  exact (sized_of_subject hsubject).2.2.2

/-! ## Transactions that are recognized -/

/-- The two shapes of a transaction and the transfers they stand for. -/
theorem ofTransaction_eq_ok (h : ofTransaction tx = .ok t) :
    ∃ gas recipient, tx.gas.payment = [gas] ∧ tx.gas.owner = tx.sender ∧
      recipient.length = addressLength ∧
      ((∃ value, tx.inputs = [.pure recipient, .pure value] ∧ value.length = 8 ∧
        tx.commands = amountCommands ∧
        t = ⟨some (Bytes.leNat value), none, Address.format recipient, Address.format tx.sender,
          some (Reference.ofObjectRef gas), tx.gas.budget.toNat, tx.gas.price.toNat⟩) ∨
      ∃ ref, tx.inputs = [.pure recipient, .owned ref] ∧ tx.commands = objectCommands ∧
        t = ⟨none, some (Reference.ofObjectRef ref), Address.format recipient,
          Address.format tx.sender, some (Reference.ofObjectRef gas), tx.gas.budget.toNat,
          tx.gas.price.toNat⟩) := by
  unfold ofTransaction at h
  split at h
  · rename_i gas hpayment
    split at h
    · cases h
    · rename_i howner
      split at h
      · rename_i recipient subject hinputs
        split at h
        · cases h
        · rename_i hrecipient
          refine ⟨gas, recipient, hpayment, Decidable.not_not.1 howner,
            Decidable.not_not.1 hrecipient, ?_⟩
          dsimp only at h
          split at h
          · rename_i value
            split at h
            · rename_i hvalue
              cases h
              exact .inl ⟨value, hinputs, hvalue.1, hvalue.2, rfl⟩
            · cases h
          · rename_i ref
            split at h
            · rename_i hcommands
              cases h
              exact .inr ⟨ref, hinputs, hcommands, rfl⟩
            · cases h
          · cases h
      · cases h
  · cases h

theorem isBadData_of_ofTransaction {e : Failure} (h : ofTransaction tx = .error e) :
    e.IsBadData := by
  have hbad : ∀ part, (Failure.notATransfer part).IsBadData := fun _ => ⟨rfl, rfl⟩
  unfold ofTransaction at h
  split at h
  · split at h
    · cases h
      exact hbad _
    · split at h
      · split at h
        · cases h
          exact hbad _
        · dsimp only at h
          split at h
          · split at h
            · cases h
            · cases h
              exact hbad _
          · split at h
            · cases h
            · cases h
              exact hbad _
          · cases h
            exact hbad _
      · cases h
        exact hbad _
  · cases h
    exact hbad _

/-! ## Transactions that are built again -/

theorem nonneg_of_writeRef {r : ObjectRef} {bs : Bytes} (h : r.write = .done bs) :
    0 ≤ r.version := by
  obtain ⟨_, _, h, -, -⟩ := Emission.append_eq_done_iff.1 h
  obtain ⟨_, _, -, h, -⟩ := Emission.append_eq_done_iff.1 h
  exact (uint_eq_done_iff.1 h).1

/-- The numbers of a transaction that is written are not negative. -/
theorem nonneg_of_write {wt : String → Emission} {bs : Bytes} (h : tx.write wt = .done bs) :
    0 ≤ tx.gas.price ∧ 0 ≤ tx.gas.budget ∧ (∀ r ∈ tx.gas.payment, 0 ≤ r.version) ∧
      ∀ r, .owned r ∈ tx.inputs → 0 ≤ r.version := by
  obtain ⟨_, _, h, -, -⟩ := Emission.append_eq_done_iff.1 h
  obtain ⟨_, _, h, hgas, -⟩ := Emission.append_eq_done_iff.1 h
  obtain ⟨_, _, h, -, -⟩ := Emission.append_eq_done_iff.1 h
  obtain ⟨_, _, h, -, -⟩ := Emission.append_eq_done_iff.1 h
  obtain ⟨_, _, -, hinputs, -⟩ := Emission.append_eq_done_iff.1 h
  obtain ⟨_, _, hgas, hbudget, -⟩ := Emission.append_eq_done_iff.1 hgas
  obtain ⟨_, _, hgas, hprice, -⟩ := Emission.append_eq_done_iff.1 hgas
  obtain ⟨_, _, hpayment, -, -⟩ := Emission.append_eq_done_iff.1 hgas
  refine ⟨(uint_eq_done_iff.1 hprice).1, (uint_eq_done_iff.1 hbudget).1, fun r hr => ?_,
    fun r hr => ?_⟩
  · obtain ⟨xs, hxs⟩ := seq_eq_done hpayment r hr
    exact nonneg_of_writeRef hxs
  · obtain ⟨xs, hxs⟩ := seq_eq_done hinputs _ hr
    obtain ⟨_, _, -, hxs, -⟩ := Emission.append_eq_done_iff.1 hxs
    exact nonneg_of_writeRef hxs

theorem typeTags_of_ofTransaction (h : ofTransaction tx = .ok t) : tx.typeTags = [] := by
  obtain ⟨_, _, -, -, -, ⟨_, -, -, hcommands, -⟩ | ⟨_, -, hcommands, -⟩⟩ := ofTransaction_eq_ok h
  · unfold TransactionOf.typeTags
    rw [hcommands]
    exact plain_amountCommands.2
  · unfold TransactionOf.typeTags
    rw [hcommands]
    exact plain_objectCommands.2

theorem subject_of_amount {value : Bytes} (hvalue : value.length = 8)
    (h : t.amount = some (Bytes.leNat value)) : t.subject = .ok (.pure value, amountCommands) := by
  have hlt := Bytes.leNat_lt value
  have hbytes := Bytes.leBytes_leNat value
  rw [hvalue] at hlt hbytes
  have hwrite : Write.uint .u64 (Bytes.leNat value) = .done value := by
    refine uint_eq_done_iff.2 ⟨by omega, Int.ofNat_lt.2 hlt, ?_⟩
    rw [Int.toNat_natCast]
    exact hbytes.symm
  unfold Transfer.subject
  rw [h]
  dsimp only
  rw [Emission.result_eq_ok_iff.2 hwrite]
  rfl

theorem subject_of_object {ref : ObjectRef} (hid : ref.id.length = addressLength)
    (hversion : 0 ≤ ref.version) (hdigest : ref.digest.length = addressLength)
    (hamount : t.amount = none) (hobject : t.object = some (Reference.ofObjectRef ref)) :
    t.subject = .ok (.owned ref, objectCommands) := by
  unfold Transfer.subject
  rw [hamount, hobject]
  dsimp only
  rw [Reference.require_ofObjectRef hid hversion hdigest]
  rfl

/-- The steps of building a transaction, each with its outcome. -/
theorem toTransaction_of_steps {recipient sender : Bytes} {gas : ObjectRef} {subject : CallArg}
    {commands : List Command} (hkind : t.amount.isNone ≠ t.object.isNone)
    (hrecipient : t.recipient = Address.format recipient) (hr : recipient.length = addressLength)
    (hsender : t.sender = Address.format sender) (hs : sender.length = addressLength)
    (hgas : Reference.require "gas_payment" t.gasPayment = .ok gas)
    (hsubject : t.subject = .ok (subject, commands)) :
    t.toTransaction = .ok ⟨[.pure recipient, subject], commands, sender,
      ⟨[gas], sender, t.gasPrice, t.gasBudget⟩, none⟩ := by
  unfold toTransaction
  rw [if_neg hkind, hrecipient, Address.parse_format hr, hsender, Address.parse_format hs, hgas,
    hsubject]
  rfl

/-- A recognized transaction is built again from its transfer, but for its expiration. -/
theorem toTransaction_of_ofTransaction {wt : String → Emission} {bs : Bytes}
    (h : ofTransaction tx = .ok t) (hw : tx.write wt = .done bs) (ha : AllSized tx.addresses)
    (hd : AllSized tx.digests) : t.toTransaction = .ok { tx with expiration := none } := by
  obtain ⟨hprice, hbudget, hpaid, howned⟩ := nonneg_of_write hw
  obtain ⟨inputs, commands, sender, ⟨payment, owner, price, budget⟩, expiration⟩ := tx
  obtain ⟨gas, recipient, hpayment, howner, hr, hshape⟩ := ofTransaction_eq_ok h
  dsimp only at hpayment howner hprice hbudget hpaid howned hshape
  subst hpayment howner
  have hs : owner.length = addressLength := ha _ List.mem_cons_self
  have hgasId : gas.id.length = addressLength :=
    ha _ (List.mem_cons_of_mem _ (List.mem_cons_of_mem _ List.mem_cons_self))
  have hgasDigest : gas.digest.length = addressLength := hd _ List.mem_cons_self
  have hgas : Reference.require "gas_payment" (some (Reference.ofObjectRef gas)) = .ok gas :=
    Reference.require_ofObjectRef hgasId (hpaid gas List.mem_cons_self) hgasDigest
  have hpriceCast := Int.toNat_of_nonneg hprice
  have hbudgetCast := Int.toNat_of_nonneg hbudget
  rcases hshape with ⟨value, rfl, hvalue, rfl, rfl⟩ | ⟨ref, rfl, rfl, rfl⟩
  · refine Eq.trans (toTransaction_of_steps Bool.false_ne_true rfl hr rfl hs hgas
      (subject_of_amount hvalue rfl)) ?_
    rw [hpriceCast, hbudgetCast]
  · have hid : ref.id.length = addressLength := ha _ (List.mem_cons_of_mem _ (List.mem_cons_of_mem _
      (List.mem_cons_of_mem _ List.mem_cons_self)))
    have hdigest : ref.digest.length = addressLength :=
      hd _ (List.mem_cons_of_mem _ List.mem_cons_self)
    have hversion := howned ref (List.mem_cons_of_mem _ List.mem_cons_self)
    refine Eq.trans (toTransaction_of_steps Bool.false_ne_true.symm rfl hr rfl hs hgas
      (subject_of_object hid hversion hdigest rfl rfl)) ?_
    rw [hpriceCast, hbudgetCast]

/-- A transaction that is built has no type tags, so it is decoded as it was. -/
theorem decode_of_encode_built {n : Nesting} {b : Bytes} (h : t.toTransaction = .ok tx)
    (hb : tx.encode n = .ok b) : Transaction.decode n b = .ok tx := by
  have htags := typeTags_of_toTransaction h
  have hdecode := Transaction.decode_of_encode (sized_of_toTransaction h).2.1 hb
    (by rw [htags]; exact List.forall_mem_nil _)
  rwa [TransactionOf.map_congr (g := fun s => s) (by rw [htags]; exact List.forall_mem_nil _),
    TransactionOf.map_id] at hdecode

/-- Serialized data is that of the transfer it is decoded as exactly if it does not expire and the
digests in it have their length. Refused data is refused as malformed; data that is given up has as
many bytes as there is room for levels of nesting. -/
theorem encode_decode_transfer_iff (n : Nesting) (data : Bytes) :
    (∀ t, decode n data = .ok t → ∃ tx, Transaction.decode n data = .ok tx ∧
      (t.encode n = .ok data ↔ tx.expiration = none ∧ AllSized tx.digests)) ∧
    ∀ e, decode n data = .error e →
      e.IsBadData ∨ e = .nestedTooDeep ∧ n.reading.levels ≤ data.length := by
  constructor
  · intro t h
    obtain ⟨tx, htx, hof⟩ := bind_eq_ok_iff.1 h
    -- No command of a transfer has a type tag, so the transaction is encoded as it was.
    have hencode : tx.encode n = .ok data :=
      Transaction.encode_of_decode htx
        (Transaction.tagsAreNamed_of_typeTags htx (typeTags_of_ofTransaction hof))
    refine ⟨tx, htx, ?_, ?_⟩
    · intro ht
      obtain ⟨built, hbuilt, hb⟩ := bind_eq_ok_iff.1 ht
      obtain ⟨hexpiration, haddresses, hdigests⟩ := sized_of_toTransaction hbuilt
      -- What is built has the same serialized form, so `tx` is what was built.
      have hdecode := decode_of_encode_built hbuilt hb
      obtain rfl : built = tx := Except.ok.inj (hdecode.symm.trans htx)
      exact ⟨hexpiration, hdigests⟩
    · rintro ⟨hexpiration, hdigests⟩
      have hbuilt := toTransaction_of_ofTransaction hof (Emission.result_eq_ok_iff.1 hencode)
        (Transaction.sized_of_decode htx) hdigests
      rw [← hexpiration] at hbuilt
      exact bind_eq_ok_iff.2 ⟨tx, hbuilt, hencode⟩
  · intro e h
    cases htx : Transaction.decode n data with
    | error e' =>
      unfold decode at h
      rw [htx] at h
      cases h
      exact TransactionOf.decode_fails (TypeTag.isBounded_readText n.reading.le_refl) htx
    | ok tx =>
      unfold decode at h
      rw [htx] at h
      exact .inl (isBadData_of_ofTransaction h)

/-- A serialized transfer of an amount, with its expiration left open. -/
def amountData (expiration : Bytes) : Bytes :=
  [0, 0, 2, 0, 32] ++ Bytes.beBytes 32 5 ++ [0, 8] ++ Bytes.leBytes 8 1000 ++
    [2, 2, 0, 1, 1, 1, 0, 1, 1, 2, 0, 0, 1, 0, 0] ++ Bytes.beBytes 32 171 ++
    [1] ++ Bytes.beBytes 32 6 ++ Bytes.leBytes 8 7 ++ [32] ++ Bytes.beBytes 32 8 ++
    Bytes.beBytes 32 171 ++ Bytes.leBytes 8 750 ++ Bytes.leBytes 8 5000 ++ expiration

/-- The transfer of that amount. -/
def amountTransfer : Transfer where
  amount := some 1000
  object := none
  recipient := Address.format (Bytes.beBytes 32 5)
  sender := Address.format (Bytes.beBytes 32 171)
  gasPayment := some ⟨Bytes.beBytes 32 6, 7, Bytes.beBytes 32 8⟩
  gasBudget := 5000
  gasPrice := 750

set_option maxRecDepth 4000 in
theorem encode_decode_amountData : decode .standard (amountData [0]) = .ok amountTransfer ∧
    amountTransfer.encode .standard = .ok (amountData [0]) := by
  have h : decode .standard (amountData [0]) = .ok amountTransfer := rfl
  have hbuilt : ∃ tx, Transaction.decode .standard (amountData [0]) = .ok tx ∧
      tx.expiration = none ∧ AllSized tx.digests := ⟨_, rfl, rfl, by decide⟩
  obtain ⟨tx, htx, hsized⟩ := hbuilt
  obtain ⟨tx', htx', hiff⟩ :=
    (encode_decode_transfer_iff .standard (amountData [0])).1 amountTransfer h
  obtain rfl : tx = tx' := Except.ok.inj (htx.symm.trans htx')
  exact ⟨h, hiff.2 hsized⟩

set_option maxRecDepth 4000 in
/-- A transfer that expires is accepted without its expiration. -/
theorem not_encode_of_decode_transfer :
    ¬ ∀ data t, decode .standard data = .ok t → Transfer.encode .standard t = .ok data := by
  intro h
  have hd : decode .standard (amountData (1 :: Bytes.leBytes 8 3)) = .ok amountTransfer := rfl
  have ht : amountTransfer.encode .standard = .ok (amountData [0]) := rfl
  have hdata := Except.ok.inj ((h _ _ hd).symm.trans ht)
  exact absurd hdata (by decide)

end Transfer

end Signatory.Sui
