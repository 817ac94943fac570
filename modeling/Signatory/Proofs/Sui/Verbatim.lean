import Signatory.Proofs.Journal
import Signatory.Proofs.Refusal
import Signatory.Proofs.Sui.Decoding
import Signatory.Proofs.Sui.Signature

/-!
# Raw transactions are signed verbatim

A raw transaction is an intent and serialized data, both as texts.

`prepareRaw_verbatim`: whatever bytes the two texts stand for, as long as there are some, they are
what is signed, and the text of the data is handed on as it is. What the data says decides the sender
that is reported and nothing else, unless its type tags are nested too deep for the look at the sender
(`IsTooDeep`).
-/

namespace Signatory.Sui

open Outcome

/-! ## Fields -/

/-- The text of a field stands for bytes, one at least. -/
def Gives (field text : String) (bs : Bytes) : Prop :=
  decodeText field text = .ok bs ∧ bs ≠ []

section Field

variable {field text : String} {bs : Bytes} {f : Failure}

theorem rawField_eq_ok_iff : rawField field text = .ok bs ↔ Gives field text bs := by
  unfold rawField Gives
  rw [bind_eq_ok_iff]
  constructor
  · rintro ⟨bs', hdecode, h⟩
    split at h
    · cases h
    · rename_i hne
      cases h
      exact ⟨hdecode, fun hnil => hne (List.isEmpty_iff.2 hnil)⟩
  · rintro ⟨hdecode, hne⟩
    refine ⟨bs, hdecode, ?_⟩
    rw [List.isEmpty_eq_false_iff.2 hne]
    rfl

/-- A field that is refused stands for no bytes. -/
theorem not_gives_of_rawField (h : rawField field text = .error f) : ¬ ∃ bs, Gives field text bs := by
  simp only [← rawField_eq_ok_iff]
  exact not_exists_of_eq_error h

theorem failsIn_rawField (field text : String) :
    FailsIn (Failure.IsMalformed field) (rawField field text) := by
  have hdecode : FailsIn (Failure.IsMalformed field) (decodeText field text) := by
    intro f hf
    rw [eq_of_decodeText hf]
    exact ⟨rfl, rfl⟩
  refine hdecode.bind fun bs _ => ?_
  split
  · exact failsIn_error ⟨rfl, rfl⟩
  · exact failsIn_ok _

end Field

/-- Bytes behind a zero are read back from their base 64 text. -/
theorem decodeText_encode_zero (field : String) (rest : Bytes) :
    decodeText field (Text.Base64.encode (0 :: rest)) = .ok (0 :: rest) := by
  refine decodeText_encode (Text.hasHexMark_of_head? ?_) field
  rw [Text.Base64.head?_encodeChars]
  decide

theorem gives_encode_zero (field : String) (rest : Bytes) :
    Gives field (Text.Base64.encode (0 :: rest)) (0 :: rest) :=
  ⟨decodeText_encode_zero field rest, List.cons_ne_nil _ _⟩

/-- The text of the intent of transactions. -/
def intentText : String := "AAAA"

theorem encode_transactionIntent : Text.Base64.encode transactionIntent = intentText := by
  decide

theorem gives_intentText : Gives "intent" intentText transactionIntent := by
  rw [← encode_transactionIntent]
  exact gives_encode_zero _ _

/-! ## The sender -/

section Sender

variable {n : Nesting} {intent data : Bytes}

/-- The address that is read from data under the intent of transactions. -/
def IsSender (n : Nesting) (intent data : Bytes) (address : String) : Prop :=
  intent.head? = some 0 ∧
    ∃ tx, Transaction.decode n data = .ok tx ∧ address = Address.format tx.sender

/-- Data under the intent of transactions is given up. -/
def IsTooDeep (n : Nesting) (intent data : Bytes) : Prop :=
  intent.head? = some 0 ∧ Transaction.decode n data = .error .nestedTooDeep

/-- Data that is given up is long. -/
theorem IsTooDeep.levels_le (h : IsTooDeep n intent data) : n.reading.levels ≤ data.length :=
  ((Transaction.decode_fails h.2).resolve_left Bcs.not_isBadData_nestedTooDeep).2

theorem rawSender_of_isTooDeep (h : IsTooDeep n intent data) :
    (rawSender n intent data).result = .error .nestedTooDeep := by
  have hintent : intent.head? = transactionIntent.head? := h.1
  unfold rawSender
  rw [if_pos hintent, h.2]
  rfl

/-- Otherwise the look for a sender does not fail, and it finds the one that can be read. -/
theorem exists_rawSender (h : ¬ IsTooDeep n intent data) :
    ∃ sender, (rawSender n intent data).result = .ok sender ∧
      ∀ address, sender = some address ↔ IsSender n intent data address := by
  unfold rawSender IsSender
  by_cases hintent : intent.head? = transactionIntent.head?
  · rw [if_pos hintent]
    cases hdecode : Transaction.decode n data with
    | ok tx =>
      refine ⟨_, rfl, fun address => ⟨?_, ?_⟩⟩
      · intro h
        exact ⟨hintent, tx, rfl, (Option.some.inj h).symm⟩
      · rintro ⟨-, tx', htx', rfl⟩
        obtain rfl := Except.ok.inj htx'
        rfl
    | error f =>
      have hcode : f.code? = some .malformedIntent := by
        rcases Transaction.decode_fails hdecode with hbad | ⟨rfl, -⟩
        · exact hbad.1
        · exact absurd ⟨hintent, hdecode⟩ h
      dsimp only
      rw [if_pos hcode]
      refine ⟨none, rfl, fun address => iff_of_false (fun h => by cases h) ?_⟩
      rintro ⟨-, tx, htx, -⟩
      cases htx
  · rw [if_neg hintent]
    exact ⟨none, rfl, fun address => iff_of_false (fun h => by cases h) fun h => hintent h.1⟩

theorem isQuiet_rawSender (n : Nesting) (intent data : Bytes) :
    (rawSender n intent data).IsQuiet := by
  unfold rawSender
  split
  · split
    · exact Traced.isQuiet_pure _
    · split
      · exact (Traced.isQuiet_debug _ _).bind fun _ => Traced.isQuiet_pure _
      · exact Traced.isQuiet_fail _
  · exact Traced.isQuiet_pure _

end Sender

/-! ## Preparing -/

section Preparing

variable {n : Nesting} {r : RawTransaction}

theorem isQuiet_prepareRaw (n : Nesting) (r : RawTransaction) : (prepareRaw n r).IsQuiet := by
  refine (Traced.isQuiet_liftM _).bind fun intent => (Traced.isQuiet_liftM _).bind fun data => ?_
  exact (isQuiet_rawSender n intent data).bind fun sender => Traced.isQuiet_pure _

theorem result_prepareRaw (n : Nesting) (r : RawTransaction) : (prepareRaw n r).result =
    rawField "intent" r.intent >>= fun intent => rawField "tx_data" r.data >>= fun data =>
      (rawSender n intent data).result >>= fun sender =>
        .ok ⟨signingMessage intent data, r.data, sender⟩ := by
  unfold prepareRaw
  simp only [Traced.result_bind, Traced.result_liftM, Traced.result_pure]

/-- The data of a raw transaction is given up. -/
def GivesUp (n : Nesting) (r : RawTransaction) : Prop :=
  ∃ intent data, Gives "intent" r.intent intent ∧ Gives "tx_data" r.data data ∧
    IsTooDeep n intent data

theorem prepareRaw_of_gives {intent data : Bytes} (hintent : Gives "intent" r.intent intent)
    (hdata : Gives "tx_data" r.data data) : (prepareRaw n r).result =
      (rawSender n intent data).result >>= fun sender =>
        .ok ⟨signingMessage intent data, r.data, sender⟩ := by
  rw [result_prepareRaw, bind_of_eq_ok (rawField_eq_ok_iff.2 hintent),
    bind_of_eq_ok (rawField_eq_ok_iff.2 hdata)]

/-- What a raw transaction is prepared to. -/
theorem prepareRaw_eq_ok_iff {u : Unsigned String} :
    (prepareRaw n r).result = .ok u ↔ ∃ intent data sender,
      Gives "intent" r.intent intent ∧ Gives "tx_data" r.data data ∧
      ¬ IsTooDeep n intent data ∧
      (∀ address, sender = some address ↔ IsSender n intent data address) ∧
      u = ⟨signingMessage intent data, r.data, sender⟩ := by
  constructor
  · intro h
    rw [result_prepareRaw] at h
    obtain ⟨intent, hintent, h⟩ := bind_eq_ok_iff.1 h
    obtain ⟨data, hdata, h⟩ := bind_eq_ok_iff.1 h
    have hshallow : ¬ IsTooDeep n intent data := by
      intro hdeep
      rw [rawSender_of_isTooDeep hdeep] at h
      cases h
    obtain ⟨sender, hresult, hsender⟩ := exists_rawSender hshallow
    rw [hresult] at h
    exact ⟨intent, data, sender, rawField_eq_ok_iff.1 hintent, rawField_eq_ok_iff.1 hdata,
      hshallow, hsender, (Except.ok.inj h).symm⟩
  · rintro ⟨intent, data, sender, hintent, hdata, hshallow, hsender, rfl⟩
    obtain ⟨sender', hresult, hsender'⟩ := exists_rawSender hshallow
    obtain rfl : sender' = sender :=
      Option.ext fun address => (hsender' address).trans (hsender address).symm
    rw [prepareRaw_of_gives hintent hdata, hresult]
    rfl

/-- The field at fault is named, the intent first; only data that is given up is at no fault. -/
theorem cases_of_prepareRaw {f : Failure} (h : (prepareRaw n r).result = .error f) :
    (¬ ∃ intent, Gives "intent" r.intent intent) ∧ f.IsMalformed "intent" ∨
      (∃ intent, Gives "intent" r.intent intent) ∧ (¬ ∃ data, Gives "tx_data" r.data data) ∧
        f.IsMalformed "tx_data" ∨
      GivesUp n r ∧ f = .nestedTooDeep := by
  cases hintent : rawField "intent" r.intent with
  | error f' =>
    rw [result_prepareRaw] at h
    obtain rfl := Except.error.inj ((bind_of_eq_error hintent _).symm.trans h)
    exact .inl ⟨not_gives_of_rawField hintent, failsIn_rawField _ _ _ hintent⟩
  | ok intent =>
    have hgives := rawField_eq_ok_iff.1 hintent
    cases hdata : rawField "tx_data" r.data with
    | error f' =>
      rw [result_prepareRaw, bind_of_eq_ok hintent] at h
      obtain rfl := Except.error.inj ((bind_of_eq_error hdata _).symm.trans h)
      exact .inr (.inl ⟨⟨intent, hgives⟩, not_gives_of_rawField hdata,
        failsIn_rawField _ _ _ hdata⟩)
    | ok data =>
      have hgives' := rawField_eq_ok_iff.1 hdata
      rw [prepareRaw_of_gives hgives hgives'] at h
      by_cases hdeep : IsTooDeep n intent data
      · rw [rawSender_of_isTooDeep hdeep] at h
        exact .inr (.inr ⟨⟨intent, data, hgives, hgives', hdeep⟩, (Except.error.inj h).symm⟩)
      · obtain ⟨sender, hsender, -⟩ := exists_rawSender hdeep
        rw [hsender] at h
        cases h

end Preparing

/-! ## Signing -/

/-- The text of the data is handed on, whatever the signature. -/
theorem exists_assemble {signature : Signature} (h : signature.curve ≠ .stark) (u : Unsigned String)
    (publicKey : Bytes) : ∃ text, assemble u signature publicKey = .ok ⟨u.body, text⟩ := by
  obtain ⟨b, hb⟩ := exists_flag_iff.2 h
  exact ⟨_, bind_of_eq_ok (serializeSignature_of_flag hb publicKey) _⟩

/-- A raw transaction is prepared exactly if both of its texts stand for bytes and the data is not
given up under the intent of transactions, for which it has to be long. Otherwise the text at fault is
refused. The bytes are signed and the text of the data is put in the output, both as they are, and the
sender is the one that can be read from the data. -/
theorem prepareRaw_verbatim (n : Nesting) (r : RawTransaction) :
    ((∃ u, (prepareRaw n r).result = .ok u) ↔ ∃ intent data,
      Gives "intent" r.intent intent ∧ Gives "tx_data" r.data data ∧ ¬ IsTooDeep n intent data) ∧
    (∀ f, (prepareRaw n r).result = .error f →
      (¬ ∃ intent, Gives "intent" r.intent intent) ∧ f.IsMalformed "intent" ∨
        (∃ intent, Gives "intent" r.intent intent) ∧ (¬ ∃ data, Gives "tx_data" r.data data) ∧
          f.IsMalformed "tx_data" ∨
        ∃ intent data, Gives "intent" r.intent intent ∧ Gives "tx_data" r.data data ∧
          IsTooDeep n intent data ∧ f = .nestedTooDeep ∧ n.reading.levels ≤ data.length) ∧
    ∀ u, (prepareRaw n r).result = .ok u → ∃ intent data,
      Gives "intent" r.intent intent ∧ Gives "tx_data" r.data data ∧
      u.payload.preimage = intent ++ data ∧
      u.payload.message = Blake2b.digest256 (intent ++ data) ∧
      (∀ address, u.sender = some address ↔ IsSender n intent data address) ∧
      ∀ sender signature publicKey, signature.curve ≠ .stark →
        ∃ text, assemble { u with sender } signature publicKey = .ok ⟨r.data, text⟩ := by
  refine ⟨⟨?_, ?_⟩, fun f hf => ?_, fun u hu => ?_⟩
  · rintro ⟨u, hu⟩
    obtain ⟨intent, data, -, hintent, hdata, hshallow, -⟩ := prepareRaw_eq_ok_iff.1 hu
    exact ⟨intent, data, hintent, hdata, hshallow⟩
  · rintro ⟨intent, data, hintent, hdata, hshallow⟩
    obtain ⟨sender, -, hsender⟩ := exists_rawSender hshallow
    exact ⟨_, prepareRaw_eq_ok_iff.2 ⟨intent, data, sender, hintent, hdata, hshallow, hsender, rfl⟩⟩
  · rcases cases_of_prepareRaw hf with h | h | ⟨⟨intent, data, hintent, hdata, hdeep⟩, rfl⟩
    · exact .inl h
    · exact .inr (.inl h)
    · exact .inr (.inr ⟨intent, data, hintent, hdata, hdeep, rfl, hdeep.levels_le⟩)
  · obtain ⟨intent, data, sender, hintent, hdata, -, hsender, rfl⟩ := prepareRaw_eq_ok_iff.1 hu
    exact ⟨intent, data, hintent, hdata, rfl, rfl, hsender,
      fun sender signature publicKey hcurve => exists_assemble hcurve _ publicKey⟩

/-- Data that is no transaction, with blanks around its text. -/
def unreadableRaw : RawTransaction := ⟨"0x00ff", " Zm9v\n"⟩

theorem prepareRaw_verbatim_unreadableRaw :
    ∃ u, (prepareRaw .standard unreadableRaw).result = .ok u ∧
      u.payload.preimage = [0x00, 0xff, 0x66, 0x6f, 0x6f] ∧ u.sender = none ∧
      ∃ text, assemble u ⟨.ed25519, []⟩ [] = .ok ⟨" Zm9v\n", text⟩ := by
  have hintent : Gives "intent" unreadableRaw.intent [0x00, 0xff] := ⟨rfl, List.cons_ne_nil _ _⟩
  have hdata : Gives "tx_data" unreadableRaw.data [0x66, 0x6f, 0x6f] := ⟨rfl, List.cons_ne_nil _ _⟩
  have hrefused : (Transaction.decode .standard [0x66, 0x6f, 0x6f]).isOk = false := by decide
  have hshallow : ¬ IsTooDeep .standard [0x00, 0xff] [0x66, 0x6f, 0x6f] :=
    fun h => absurd h.levels_le (by decide)
  obtain ⟨hiff, -, hsigned⟩ := prepareRaw_verbatim .standard unreadableRaw
  obtain ⟨u, hu⟩ := hiff.2 ⟨_, _, hintent, hdata, hshallow⟩
  obtain ⟨intent, data, hintent', hdata', hpreimage, -, hsender, hassemble⟩ := hsigned u hu
  obtain rfl := Except.ok.inj (hintent.1.symm.trans hintent'.1)
  obtain rfl := Except.ok.inj (hdata.1.symm.trans hdata'.1)
  refine ⟨u, hu, hpreimage, ?_, hassemble u.sender _ _ fun h => by cases h⟩
  refine Option.eq_none_iff_forall_ne_some.2 fun address haddress => ?_
  obtain ⟨-, tx, htx, -⟩ := (hsender address).1 haddress
  rw [htx] at hrefused
  cases hrefused

/-- A transaction that opens two thousand vectors. -/
def deepRaw : RawTransaction := ⟨intentText, Text.Base64.encode (openVectors 2000)⟩

/-- Both of its texts stand for bytes, but it is neither signed nor refused. -/
theorem deepRaw_not_prepared :
    Gives "intent" deepRaw.intent transactionIntent ∧
      Gives "tx_data" deepRaw.data (openVectors 2000) ∧
      (prepareRaw .standard deepRaw).result = .error .nestedTooDeep := by
  have hdata : Gives "tx_data" deepRaw.data (openVectors 2000) := gives_encode_zero _ _
  refine ⟨gives_intentText, hdata, ?_⟩
  rw [prepareRaw_of_gives gives_intentText hdata,
    rawSender_of_isTooDeep ⟨rfl, Transaction.decode_openVectors (by decide)⟩]
  rfl

end Signatory.Sui
