import Signatory.Proofs.Registration
import Signatory.Proofs.Signer.Order

/-!
# Untyped requests

An untyped request is checked and then signed as the model it states, but the codec of its chain is
looked up first, by the tag as it was given. A tag may be given as bytes, which a check takes for
the text they encode and a lookup for their literal.

1. `Signer.sign_value_eq`: signing an untyped request is that lookup and then signing the model.
2. `Signer.sign_value_iff`: so the two agree unless the lookup hides the tag (`HidesTag`) and the
   model is not refused for its chain either.
-/

namespace Signatory

open Outcome

theorem Failure.code?_eq_some_iff {f : Failure} {code : ErrorCode} :
    f.code? = some code ↔ f.kind = .refusal code := by
  unfold code?
  constructor
  · intro h
    split at h
    · rename_i hkind
      rw [hkind, Option.some.inj h]
    · cases h
  · intro h
    rw [h]

/-! ## Checks -/

namespace Checked

variable {α β : Type}

theorem seq_eq_valid {f : Checked (α → β)} {c : Checked α} {b : β} (h : f <*> c = .valid b) :
    ∃ g a, f = .valid g ∧ c = .valid a ∧ g a = b := by
  cases f with
  | invalid is => cases c <;> cases h
  | valid g =>
    cases c with
    | invalid is => cases h
    | valid a =>
      cases h
      exact ⟨g, a, rfl, rfl, rfl⟩

theorem map_eq_valid {g : α → β} {c : Checked α} {b : β} (h : g <$> c = .valid b) :
    ∃ a, c = .valid a ∧ g a = b := by
  cases c with
  | invalid is => cases h
  | valid a =>
    cases h
    exact ⟨a, rfl, rfl⟩

theorem eq_valid_of_within {step : String} {c : Checked α} {a : α}
    (h : within step c = .valid a) : c = .valid a := by
  cases c with
  | invalid is => cases h
  | valid a' => exact h

end Checked

/-- A text is given as it is or in its UTF-8 form. -/
theorem Check.text_eq_valid {v : Value} {t : String} (h : text v = .valid t) :
    v = .text t ∨ ∃ bs, v = .bytes bs ∧ Bytes.toText? bs = some t := by
  cases v with
  | text s =>
    cases h
    exact .inl rfl
  | bytes bs =>
    unfold text at h
    dsimp only at h
    split at h
    · rename_i s hs
      cases h
      exact .inr ⟨bs, rfl, hs⟩
    · cases h
  | null | bool | int | float | list | object => cases h

/-- How the tag of a checked request was given: not at all, as a text, or as bytes. -/
theorem Request.chain_of_check {v : Value} {r : Request} (h : check v = .valid r) :
    (∃ fs, v = .object fs) ∧ ((v.field? "chain" = none ∧ r.chain = "") ∨
      v.field? "chain" = some (.text r.chain) ∨
      ∃ bs, v.field? "chain" = some (.bytes bs) ∧ Bytes.toText? bs = some r.chain) := by
  cases v with
  | object fs =>
    refine ⟨⟨fs, rfl⟩, ?_⟩
    -- The chain is the first of the fields that are checked side by side.
    obtain ⟨_, extra, hpath, -, rfl⟩ := Checked.seq_eq_valid h
    obtain ⟨_, path, hcurve, -, rfl⟩ := Checked.seq_eq_valid hpath
    obtain ⟨_, curve, hsender, -, rfl⟩ := Checked.seq_eq_valid hcurve
    obtain ⟨_, sender, hstarknet, -, rfl⟩ := Checked.seq_eq_valid hsender
    obtain ⟨_, starknet, hsui, -, rfl⟩ := Checked.seq_eq_valid hstarknet
    obtain ⟨_, sui, hfirst, -, rfl⟩ := Checked.seq_eq_valid hsui
    obtain ⟨chain, hchain, rfl⟩ := Checked.map_eq_valid hfirst
    replace hchain := Checked.eq_valid_of_within hchain
    cases hlookup : fs.lookup "chain" with
    | none =>
      rw [hlookup] at hchain
      cases hchain
      exact .inl ⟨hlookup, rfl⟩
    | some tag =>
      rw [hlookup] at hchain
      rcases Check.text_eq_valid hchain with rfl | ⟨bs, rfl, hbs⟩
      · exact .inr (.inl hlookup)
      · exact .inr (.inr ⟨bs, hlookup, hbs⟩)
  | null | bool | int | float | text | bytes | list => cases h

/-! ## Lookups -/

/-- A tag with a normal form is in the table or is refused. -/
theorem CodecTable.find_eq {tag : Value} {key : String} (t : CodecTable)
    (h : Tag.ofValue tag = .ok key) :
    t.find tag = (t.entries.lookup key).elim (.error (Tag.unknown tag)) .ok := by
  unfold find
  rw [h]
  dsimp only [bind, Except.bind]
  cases t.entries.lookup key <;> rfl

theorem Tag.kind_unknown (tag : Value) : (Tag.unknown tag).kind = .refusal .unsupportedChain :=
  rfl

theorem CodecTable.find_eq_error {tag : Value} {key : String} {t : CodecTable} {f : Failure}
    (h : Tag.ofValue tag = .ok key) (hf : t.find tag = .error f) :
    t.entries.lookup key = none ∧ f = Tag.unknown tag := by
  rw [t.find_eq h] at hf
  cases hlookup : t.entries.lookup key with
  | none =>
    rw [hlookup] at hf
    cases hf
    exact ⟨rfl, rfl⟩
  | some c =>
    rw [hlookup] at hf
    cases hf

/-- The literal of bytes stands between `b` and a quote. -/
theorem Text.exists_quotedBytes (bs : Bytes) : ∃ cs quote,
    (quotedBytes bs).toList = 'b' :: (cs ++ [quote]) ∧ isBlank quote = false := by
  have hmark : "b".toList = ['b'] := rfl
  have hsingle (c : Char) : c.toString.toList = [c] := String.toList_singleton c
  unfold quotedBytes
  dsimp only
  generalize hquote : quoteFor (bs.map fun b => Char.ofNat b.toNat) = quote
  refine ⟨quote :: (String.join (bs.map (escapeByte quote))).toList, quote, ?_, ?_⟩
  · rw [String.toList_append, String.toList_append, String.toList_append, hmark, hsingle]
    rfl
  · rw [← hquote]
    unfold quoteFor
    split <;> rfl

/-- The literal of bytes starts with `B` in upper case. -/
theorem Tag.head?_normal_quotedBytes (bs : Bytes) :
    (normal (Text.quotedBytes bs)).toList.head? = some 'B' := by
  obtain ⟨cs, quote, hchars, hquote⟩ := Text.exists_quotedBytes bs
  have htight : Text.IsTight Text.isBlank (Text.quotedBytes bs).toList := by
    rw [hchars]
    refine ⟨?_, ?_⟩
    · rintro c hc
      cases hc
      decide
    · rw [← List.cons_append, List.getLast?_concat]
      rintro c hc
      cases hc
      exact hquote
  have hupper : Text.upperChar 'b' = ['B'] := rfl
  unfold normal Text.strip Text.upper
  rw [Text.trim_eq_self htight, String.ofList_toList, hchars, String.toList_ofList,
    List.flatMap_cons, hupper]
  rfl

/-- A tag of bytes has a normal form, which is empty or that of its literal. -/
theorem Tag.exists_ofValue_bytes (bs : Bytes) :
    ∃ key, Tag.ofValue (.bytes bs) = .ok key ∧ key.toList.head? ≠ some 'S' := by
  unfold ofValue
  split
  · exact ⟨_, rfl, by decide⟩
  · refine ⟨_, rfl, fun h => ?_⟩
    rw [head?_normal_quotedBytes] at h
    cases h

/-- The built-in tags start with `S`. -/
theorem CodecTable.lookup_standard_of_head? {key : String} (h : key.toList.head? ≠ some 'S') :
    standard.entries.lookup key = none := by
  have hsui : (key == "SUI") = false := beq_eq_false_iff_ne.2 fun hkey => h (by rw [hkey]; rfl)
  have hstarknet : (key == "STARKNET") = false :=
    beq_eq_false_iff_ne.2 fun hkey => h (by rw [hkey]; rfl)
  simp only [standard, List.lookup_cons, List.lookup_nil, hsui, hstarknet]

namespace Signer

variable {s : Signer} {accounts : AccountProvider} {v : Value} {r : Request}

/-- The tag is given as bytes, and no codec has the literal of these bytes for its tag. -/
def HidesTag (s : Signer) (v : Value) : Prop :=
  ∃ bs, v.field? "chain" = some (.bytes bs) ∧ ∀ c, s.codecs.find (.bytes bs) ≠ .ok c

/-- The tag of an untyped request as it is given. -/
def givenTag (v : Value) : Value :=
  (v.field? "chain").getD .null

/-- Signing an untyped request is to look its tag up and then to sign the model it states. -/
theorem sign_value_eq (s : Signer) (accounts : AccountProvider) (h : Request.check v = .valid r) :
    s.sign accounts (.value v) = (do
      let _ ← s.codecs.find (givenTag v)
      s.sign accounts (.model r)) := by
  obtain ⟨⟨fs, rfl⟩, -⟩ := Request.chain_of_check h
  have hchecked : checked (.object fs) = pure r := by
    unfold checked
    rw [h]
  unfold sign
  rw [validate_object, hchecked, validate_model]
  simp only [LawfulMonad.bind_assoc, pure_bind]
  rfl

theorem givenTag_of_field? {tag : Value} (h : v.field? "chain" = some tag) : givenTag v = tag := by
  unfold givenTag
  rw [h]
  rfl

/-- The tag of a checked request is given as bytes, or its normal form is that of the model. -/
theorem givenTag_cases (h : Request.check v = .valid r) :
    (∃ bs, v.field? "chain" = some (.bytes bs)) ∨
      Tag.ofValue (givenTag v) = .ok (Tag.normal r.chain) := by
  rw [← Tag.ofValue_text]
  obtain ⟨-, ⟨hnone, hchain⟩ | htext | ⟨bs, hbytes, -⟩⟩ := Request.chain_of_check h
  · have htag : givenTag v = .null := by
      unfold givenTag
      rw [hnone]
      rfl
    rw [htag, hchain]
    exact .inr rfl
  · rw [givenTag_of_field? htext]
    exact .inr rfl
  · exact .inl ⟨bs, hbytes⟩

/-- A model whose chain has no codec is refused for that. -/
theorem sign_model_of_lookup (h : s.codecs.entries.lookup (Tag.normal r.chain) = none) :
    s.sign accounts (.model r) = .fail (Tag.unknown (.text r.chain)) := by
  have hfind := s.codecs.find_eq (Tag.ofValue_text r.chain)
  rw [h, Option.elim_none] at hfind
  unfold sign
  rw [validate_model, pure_bind, hfind]
  rfl

/-- The same output, or failures of one class. -/
def SameClass {α : Type} (x y : Except Failure α) : Prop :=
  (∃ a, x = .ok a ∧ y = .ok a) ∨ ∃ e f, x = .error e ∧ y = .error f ∧ e.kind = f.kind

theorem SameClass.refl {α : Type} (x : Except Failure α) : SameClass x x := by
  cases x with
  | ok a => exact .inl ⟨a, rfl, rfl⟩
  | error e => exact .inr ⟨e, e, rfl, rfl, rfl⟩

/-- A hidden tag is refused at once. -/
theorem HidesTag.sign_value (hhides : s.HidesTag v) (accounts : AccountProvider)
    (h : Request.check v = .valid r) :
    ∃ f, s.sign accounts (.value v) = .fail f ∧ f.kind = .refusal .unsupportedChain := by
  obtain ⟨bs, hbytes, hnone⟩ := hhides
  obtain ⟨key, hkey, -⟩ := Tag.exists_ofValue_bytes bs
  cases hfind : s.codecs.find (.bytes bs) with
  | ok c => exact absurd hfind (hnone c)
  | error f =>
    obtain ⟨-, rfl⟩ := CodecTable.find_eq_error hkey hfind
    refine ⟨Tag.unknown (.bytes bs), ?_, Tag.kind_unknown _⟩
    rw [sign_value_eq s accounts h, givenTag_of_field? hbytes, hfind]
    rfl

/-- Otherwise an untyped request fares like its model. -/
theorem sameClass_of_not_hidesTag (hhides : ¬ s.HidesTag v) (h : Request.check v = .valid r) :
    SameClass (s.sign accounts (.value v)).result (s.sign accounts (.model r)).result := by
  rw [sign_value_eq s accounts h]
  cases hfind : s.codecs.find (givenTag v) with
  | ok c => exact .refl _
  | error f =>
    rcases givenTag_cases h with ⟨bs, hbytes⟩ | hkey
    · rw [givenTag_of_field? hbytes] at hfind
      refine (hhides ⟨bs, hbytes, fun c hc => ?_⟩).elim
      rw [hfind] at hc
      cases hc
    · -- Both lookups miss, under the same key.
      obtain ⟨hlookup, rfl⟩ := CodecTable.find_eq_error hkey hfind
      rw [sign_model_of_lookup hlookup]
      exact .inr ⟨_, _, rfl, rfl, (Tag.kind_unknown _).trans (Tag.kind_unknown _).symm⟩

/-- A tag of bytes is hidden from the built-in codecs: its literal starts with another letter. -/
theorem hidesTag_standard (hs : s.codecs = .standard) :
    s.HidesTag v ↔ ∃ bs, v.field? "chain" = some (.bytes bs) := by
  refine ⟨fun ⟨bs, hbytes, _⟩ => ⟨bs, hbytes⟩, fun ⟨bs, hbytes⟩ => ⟨bs, hbytes, fun c hc => ?_⟩⟩
  obtain ⟨key, hkey, hhead⟩ := Tag.exists_ofValue_bytes bs
  rw [hs, CodecTable.find_eq _ hkey, CodecTable.lookup_standard_of_head? hhead] at hc
  cases hc

/-- An untyped request and the model it states are signed alike exactly if the tag is not hidden, or
if the chain is unknown anyway. A hidden tag is refused, and to the built-in codecs each tag of
bytes is hidden. -/
theorem sign_value_iff (s : Signer) (accounts : AccountProvider)
    (h : Request.check v = .valid r) :
    (SameClass (s.sign accounts (.value v)).result (s.sign accounts (.model r)).result ↔
      (s.HidesTag v →
        Outcome.code? (s.sign accounts (.model r)).result = some .unsupportedChain)) ∧
    (s.HidesTag v → ∃ f, s.sign accounts (.value v) = .fail f ∧
      f.code? = some .unsupportedChain) ∧
    (s.codecs = .standard → (s.HidesTag v ↔ ∃ bs, v.field? "chain" = some (.bytes bs))) := by
  refine ⟨⟨fun hsame hhides => ?_, fun himp => ?_⟩, fun hhides => ?_, hidesTag_standard⟩
  · obtain ⟨f, hf, hkind⟩ := hhides.sign_value accounts h
    rw [hf] at hsame
    rcases hsame with ⟨o, ho, -⟩ | ⟨e, g, he, hg, heg⟩
    · cases ho
    · cases he
      rw [hg]
      exact Failure.code?_eq_some_iff.2 (heg.symm.trans hkind)
  · by_cases hhides : s.HidesTag v
    · obtain ⟨f, hf, hkind⟩ := hhides.sign_value accounts h
      obtain ⟨g, hg, hcode⟩ := exists_of_code? (himp hhides)
      rw [hf, hg]
      exact .inr ⟨f, g, rfl, rfl, hkind.trans (Failure.code?_eq_some_iff.1 hcode).symm⟩
    · exact sameClass_of_not_hidesTag hhides h
  · obtain ⟨f, hf, hkind⟩ := hhides.sign_value accounts h
    exact ⟨f, hf, Failure.code?_eq_some_iff.2 hkind⟩

/-- An untyped request to sign a bare hash, with its tag in some form. -/
def untypedRequest (tag : Value) : Value :=
  .object [("chain", tag), ("starknet", .object [("raw_tx", .text "0x1")]),
    ("account_path", .text "m")]

/-- The model that it states. -/
def statedRequest (chain : String) : Request where
  chain := chain
  sui := none
  starknet := some ⟨some "0x1", none⟩
  sender := none
  curve := none
  accountPath := some "m"
  extra := []

/-- A tag with a blank, in mixed case. -/
theorem sign_value_untypedRequest :
    Request.check (untypedRequest (.text "Starknet ")) = .valid (statedRequest "Starknet ") ∧
    ¬ lightSigner.HidesTag (untypedRequest (.text "Starknet ")) ∧
    SameClass (lightSigner.sign someProvider (.value (untypedRequest (.text "Starknet ")))).result
      (lightSigner.sign someProvider (.model (statedRequest "Starknet "))).result := by
  have hcheck : Request.check (untypedRequest (.text "Starknet ")) =
      .valid (statedRequest "Starknet ") := rfl
  have hhides : ¬ lightSigner.HidesTag (untypedRequest (.text "Starknet ")) := by
    rintro ⟨bs, hbytes, -⟩
    cases hbytes
  exact ⟨hcheck, hhides,
    (sign_value_iff lightSigner someProvider hcheck).1.2 fun h => absurd h hhides⟩

/-- The tag in UTF-8. -/
def bytesTag : Value := .bytes (Bytes.ascii "STARKNET")

/-- The model is signed and the untyped request is refused. -/
theorem not_sameClass_bytesTag :
    Request.check (untypedRequest bytesTag) = .valid (statedRequest "STARKNET") ∧
    (∃ o, (lightSigner.sign someProvider (.model (statedRequest "STARKNET"))).result = .ok o) ∧
    (∃ f, (lightSigner.sign someProvider (.value (untypedRequest bytesTag))).result = .error f ∧
      f.code? = some .unsupportedChain) ∧
    ¬ SameClass (lightSigner.sign someProvider (.value (untypedRequest bytesTag))).result
      (lightSigner.sign someProvider (.model (statedRequest "STARKNET"))).result := by
  have hcheck : Request.check (untypedRequest bytesTag) = .valid (statedRequest "STARKNET") := rfl
  obtain ⟨o, ho⟩ : ∃ o,
      (lightSigner.sign someProvider (.model (statedRequest "STARKNET"))).result = .ok o :=
    exists_of_isOk (by rw [lightSigner_eq]; decide +kernel)
  obtain ⟨f, hf, hcode⟩ : ∃ f,
      (lightSigner.sign someProvider (.value (untypedRequest bytesTag))).result = .error f ∧
        f.code? = some .unsupportedChain := exists_of_code? (by decide +kernel)
  refine ⟨hcheck, ⟨o, ho⟩, ⟨f, hf, hcode⟩, ?_⟩
  rw [hf, ho]
  rintro (⟨_, h, -⟩ | ⟨_, _, -, h, -⟩)
  · cases h
  · cases h

end Signer

end Signatory
