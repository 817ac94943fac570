import Signatory.Codec
import Signatory.Proofs.Starknet.Preparing
import Signatory.Proofs.Text.Alphabet

/-!
# Hashes that are signed as they are

A raw transaction that is no JSON object is a hash in hexadecimal.

1. `hashMessage_of_denotes`: the message of a text that denotes a number is the number in 32 bytes.
   Any other text is refused (`hashMessage_of_not_denotes`).
2. `prepare_hash_outcomes`: so such a transaction is prepared exactly if its text denotes a number,
   and all texts that denote the number are prepared alike.
-/

namespace Signatory.Starknet

open Text Outcome

variable {cs : List Char} {n : Nat}

/-! ## Messages -/

/-- Digits are read as bytes with a zero in front if their number is odd. -/
theorem hashMessage_of_digits (hne : Hex.unmarked cs ≠ [])
    (hdigits : ∀ c ∈ Hex.unmarked cs, isHexDigit c = true) : hashMessage cs =
      if 64 < (Hex.unmarked cs).length then .error .rawHashTooLong
      else .ok (Bytes.beBytes 32 (ofDigits 16 ((Hex.unmarked cs).filterMap hexValue?))) := by
  have hunmarked : (if hasHexMark cs = true then cs.drop 2 else cs) = Hex.unmarked cs := rfl
  have hvalid : ¬ ((Hex.unmarked cs).isEmpty = true ∨
      ¬ (Hex.unmarked cs).all isHexDigit = true) := by
    rintro (hnil | hall)
    · exact hne (List.isEmpty_iff.1 hnil)
    · exact hall (List.all_eq_true.2 hdigits)
  unfold hashMessage
  dsimp only
  rw [hunmarked, if_neg hvalid]
  generalize Hex.unmarked cs = ds at hdigits
  -- A zero in front makes their number even and adds nothing to their value.
  obtain ⟨bs, hbs, hlength, hnumber⟩ : ∃ bs,
      Hex.decode? (if ds.length % 2 = 1 then '0' :: ds else ds) = some bs ∧
        (2 * bs.length = ds.length ∨ 2 * bs.length = ds.length + 1) ∧
          Bytes.beNat bs = ofDigits 16 (ds.filterMap hexValue?) := by
    by_cases hodd : ds.length % 2 = 1
    · have heven : ('0' :: ds).length % 2 = 0 := by
        rw [List.length_cons]
        omega
      obtain ⟨bs, hbs, hlength, hnumber⟩ :=
        Hex.exists_decode? heven (List.forall_mem_cons.2 ⟨rfl, hdigits⟩)
      rw [if_pos hodd]
      exact ⟨bs, hbs, .inr hlength, hnumber⟩
    · obtain ⟨bs, hbs, hlength, hnumber⟩ := Hex.exists_decode? (by omega) hdigits
      rw [if_neg hodd]
      exact ⟨bs, hbs, .inl hlength, hnumber⟩
  rw [hbs, Option.getD_some]
  by_cases hlong : 64 < ds.length
  · rw [if_pos hlong, if_pos (by omega)]
  · rw [if_neg hlong, if_neg (by omega), Bytes.padLeft_eq (by omega), hnumber]

theorem hashMessage_of_denotes (h : Hex.Denotes 64 cs n) :
    hashMessage cs = .ok (Bytes.beBytes 32 n) := by
  obtain ⟨hne, hlimit, hdigits, rfl⟩ := Hex.denotes_iff.1 h
  rw [hashMessage_of_digits hne hdigits, if_neg (Nat.not_lt.2 hlimit)]

theorem hashMessage_of_not_denotes (h : ¬ ∃ n, Hex.Denotes 64 cs n) :
    ∃ f, hashMessage cs = .error f ∧ f.IsMalformed "raw_tx" := by
  by_cases hvalid : Hex.unmarked cs ≠ [] ∧ ∀ c ∈ Hex.unmarked cs, isHexDigit c = true
  · obtain ⟨hne, hdigits⟩ := hvalid
    refine ⟨.rawHashTooLong, ?_, rfl, rfl⟩
    rw [hashMessage_of_digits hne hdigits, if_pos]
    exact Nat.lt_of_not_le fun hlimit =>
      h ⟨ofDigits 16 _, Hex.denotes_iff.2 ⟨hne, hlimit, hdigits, rfl⟩⟩
  · refine ⟨.invalidText "raw_tx" (String.ofList cs), if_pos ?_, rfl, rfl⟩
    by_contra hnone
    rw [not_or, not_not] at hnone
    exact hvalid ⟨fun hnil => hnone.1 (List.isEmpty_iff.2 hnil), List.all_eq_true.1 hnone.2⟩

/-! ## Preparing -/

/-- What a raw transaction alone is prepared as. -/
def preparedRaw (room : Sui.Nesting) (raw : String) : Except Failure (Unsigned Output) :=
  (Codec.starknet.prepare room ⟨some raw, none⟩).result

/-- A transaction of which only the message is known. -/
def ofHash (message : Bytes) : Unsigned Output :=
  ⟨.ofMessage message, .blank, none⟩

theorem preparedRaw_eq (room : Sui.Nesting) (raw : String) :
    preparedRaw room raw = (prepareRaw raw).result := by
  show (Traced.debug _ _ >>= fun _ => prepareRaw raw).result = _
  rw [Traced.result_bind]
  rfl

/-- What denotes a number is no JSON object. -/
theorem not_isObjectText {raw : String} (h : Hex.Denotes 64 (trim isBlank raw.toList) n) :
    ¬ IsObjectText raw := by
  obtain ⟨c, hc, hdigit⟩ := h.head?
  intro hobject
  obtain rfl := Option.some.inj (hc.symm.trans hobject)
  cases hdigit

theorem preparedRaw_of_denotes (room : Sui.Nesting) {raw : String} (h : Hex.Denotes 64 (trim isBlank raw.toList) n) :
    preparedRaw room raw = .ok (ofHash (Bytes.beBytes 32 n)) := by
  rw [preparedRaw_eq, result_prepareRaw_hash (not_isObjectText h), hashMessage_of_denotes h]
  rfl

/-- The text of a message denotes the number of the message. -/
theorem denotes_encode {message : Bytes} (hlength : message.length = 32) {s : String}
    (hs : s = Hex.encode message ∨ s = "0x" ++ Hex.encode message) :
    Hex.Denotes 64 (trim isBlank s.toList) (Bytes.beNat message) := by
  have hne : message ≠ [] := by
    rintro rfl
    cases hlength
  have hlimit : 2 * message.length ≤ 64 := by omega
  rcases hs with rfl | rfl
  · have htrim : trim isBlank (Hex.encode message).toList = Hex.encodeChars message := by
      rw [Hex.encode, String.toList_ofList]
      exact trim_eq_self (isTight_of_forall fun c hc =>
        isBlank_of_isHexDigit (Hex.isHexDigit_of_mem_encodeChars hc))
    rw [htrim]
    exact Hex.denotes_encodeChars (.inl rfl) hne hlimit
  · rw [Hex.trim_marked]
    exact Hex.denotes_encodeChars (.inr (.inl rfl)) hne hlimit

/-- A raw transaction that is no JSON object is prepared exactly if its text, up to blanks around
it, denotes a number of 64 digits at most. The message is the number in 32 bytes, and its own text is
prepared as the same message. Every other such text is refused as malformed. -/
theorem prepare_hash_outcomes (room : Sui.Nesting) (raw : String) (hraw : ¬ IsObjectText raw) :
    (∀ n, Hex.Denotes 64 (trim isBlank raw.toList) n → ∃ message : Bytes,
      preparedRaw room raw = .ok (ofHash message) ∧ message.length = 32 ∧ Bytes.beNat message = n ∧
        ∀ s, s = Hex.encode message ∨ s = "0x" ++ Hex.encode message →
          preparedRaw room s = .ok (ofHash message)) ∧
    ((¬ ∃ n, Hex.Denotes 64 (trim isBlank raw.toList) n) →
      ∃ f, preparedRaw room raw = .error f ∧ f.IsMalformed "raw_tx") := by
  refine ⟨fun n hn => ?_, fun h => ?_⟩
  · have hfits : n < Bytes.capacity 32 := Nat.lt_of_lt_of_eq hn.lt (by decide)
    have hlength : (Bytes.beBytes 32 n).length = 32 := Bytes.length_beBytes 32 n
    have hnumber : Bytes.beNat (Bytes.beBytes 32 n) = n := by
      rw [Bytes.beNat_beBytes, Nat.mod_eq_of_lt hfits]
    refine ⟨_, preparedRaw_of_denotes room hn, hlength, hnumber, fun s hs => ?_⟩
    have hdenotes := denotes_encode hlength hs
    rw [hnumber] at hdenotes
    exact preparedRaw_of_denotes room hdenotes
  · obtain ⟨f, hf, hmalformed⟩ := hashMessage_of_not_denotes h
    refine ⟨f, ?_, hmalformed⟩
    rw [preparedRaw_eq, result_prepareRaw_hash hraw, hf]
    rfl

/-- An odd number of digits in both letter cases, with blanks around them. -/
def oddHash : String := "\t0X0aBcD "

/-- One digit too many. -/
def longHash : String := String.ofList (List.replicate 65 'f')

theorem prepare_hash_outcomes_spelledTexts :
    (¬ IsObjectText oddHash ∧ Hex.Denotes 64 (trim isBlank oddHash.toList) 0xabcd ∧
      ∃ message : Bytes, preparedRaw .standard oddHash = .ok (ofHash message) ∧ message.length = 32 ∧
        Bytes.beNat message = 0xabcd ∧
        preparedRaw .standard (Hex.encode message) = .ok (ofHash message)) ∧
    ∀ s ∈ [longHash, "", "0x", "0x0x1"], ¬ IsObjectText s ∧
      (¬ ∃ n, Hex.Denotes 64 (trim isBlank s.toList) n) ∧
        ∃ f, preparedRaw .standard s = .error f ∧ f.IsMalformed "raw_tx" := by
  have hobject : ∀ s ∈ [oddHash, longHash, "", "0x", "0x0x1"], ¬ IsObjectText s := by
    unfold IsObjectText
    decide +kernel
  have hodd : Hex.Denotes 64 (trim isBlank oddHash.toList) 0xabcd := by decide +kernel
  have hnone : ∀ s ∈ [longHash, "", "0x", "0x0x1"],
      ¬ ∃ n, Hex.Denotes 64 (trim isBlank s.toList) n := by decide +kernel
  obtain ⟨hoddObject, hobject⟩ := List.forall_mem_cons.1 hobject
  obtain ⟨message, hprepared, hlength, hnumber, hagain⟩ :=
    (prepare_hash_outcomes .standard oddHash hoddObject).1 _ hodd
  exact ⟨⟨hoddObject, hodd, message, hprepared, hlength, hnumber, hagain _ (.inl rfl)⟩,
    fun s hs => ⟨hobject s hs, hnone s hs,
      (prepare_hash_outcomes .standard s (hobject s hs)).2 (hnone s hs)⟩⟩

end Signatory.Starknet
