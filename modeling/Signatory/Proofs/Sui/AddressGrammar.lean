import Signatory.Proofs.Refusal
import Signatory.Proofs.Sui.AddressText
import Signatory.Proofs.Text.Alphabet

/-!
# Which texts are addresses

1. `Denotes`: which texts denote a number. A text that does is read as the number in 32 bytes
   (`parse_of_denotes`), and any other is refused for its field (`parse_of_not_denotes`). So texts
   are read as one address exactly if they denote one number (`parse_eq_parse_iff`).
2. `isFull_iff`: the full spellings are the texts that addresses are written as.
3. `parse_text_outcomes`: so the text of an address is the one full spelling among all that are read
   as the address.
-/

namespace Signatory.Sui.Address

open Text

variable {s : String} {n : Nat}

/-- A text denotes a number: blanks around it aside, it is one to 64 hexadecimal digits, with a mark
in front or without one. -/
def Denotes (s : String) (n : Nat) : Prop :=
  Hex.Denotes 64 (trim isBlank s.toList) n

instance (s : String) (n : Nat) : Decidable (Denotes s n) :=
  inferInstanceAs (Decidable (Hex.Denotes 64 (trim isBlank s.toList) n))

instance (s : String) : Decidable (∃ n, Denotes s n) :=
  inferInstanceAs (Decidable (∃ n, Hex.Denotes 64 (trim isBlank s.toList) n))

/-- The number has its place in the bytes of an address. -/
theorem Denotes.beNat_beBytes (h : Denotes s n) : Bytes.beNat (Bytes.beBytes 32 n) = n := by
  have hpow : Nat.pow 16 64 = Bytes.capacity 32 := by decide
  rw [Bytes.beNat_beBytes, Nat.mod_eq_of_lt (Nat.lt_of_lt_of_eq (Hex.Denotes.lt h) hpow)]

theorem Denotes.isBlankText_eq_false (h : Denotes s n) : isBlankText s = false := by
  obtain ⟨c, hc, hdigit⟩ := Hex.Denotes.head? h
  have hmem : c ∈ s.toList := (isInfix_trim isBlank s.toList).subset (List.mem_of_mem_head? hc)
  refine List.all_eq_false.2 ⟨c, hmem, ?_⟩
  rw [isBlank_of_isHexDigit hdigit]
  exact Bool.false_ne_true

/-! ## Reading -/

theorem parse_of_denotes (field : String) (h : Denotes s n) :
    parse field s = .ok (Bytes.beBytes 32 n) := by
  have hblank := h.isBlankText_eq_false
  obtain ⟨hne, hlimit, hdigits, rfl⟩ := Hex.denotes_iff.1 h
  have hunmarked : digits s = Hex.unmarked (trim isBlank s.toList) := rfl
  have hpos := List.length_pos_iff.2 hne
  unfold parse
  rw [hunmarked, hblank, if_neg Bool.false_ne_true]
  exact if_pos ⟨hpos, hlimit, List.all_eq_true.2 hdigits⟩

theorem parse_of_not_denotes (field : String) (h : ¬ ∃ n, Denotes s n) :
    ∃ f, parse field s = .error f ∧ f.IsMalformed field := by
  have hinvalid : ¬ (1 ≤ (digits s).length ∧ (digits s).length ≤ 2 * addressLength ∧
      (digits s).all isHexDigit = true) := by
    rintro ⟨hpos, hlimit, hdigits⟩
    apply h
    exact ⟨_, Hex.denotes_iff.2
      ⟨List.length_pos_iff.1 hpos, hlimit, List.all_eq_true.1 hdigits, rfl⟩⟩
  unfold parse
  dsimp only
  by_cases hblank : isBlankText s = true
  · rw [if_pos hblank]
    exact ⟨_, rfl, rfl, rfl⟩
  · rw [if_neg hblank, if_neg hinvalid]
    exact ⟨_, rfl, rfl, rfl⟩

/-- Texts are read as one address exactly if they denote one number, whatever they are given for. -/
theorem parse_eq_parse_iff (field other : String) {s t : String} {m n : Nat} (hm : Denotes s m)
    (hn : Denotes t n) : parse field s = parse other t ↔ m = n := by
  rw [parse_of_denotes field hm, parse_of_denotes other hn]
  constructor
  · intro h
    have hbytes := congrArg Bytes.beNat (Except.ok.inj h)
    rwa [hm.beNat_beBytes, hn.beNat_beBytes] at hbytes
  · rintro rfl
    rfl

/-! ## Full spellings -/

/-- A digit of a full spelling is in lower case. -/
theorem lower_of_mem {c : Char} (h : c ∈ "0123456789abcdef".toList) :
    isHexDigit c = true ∧ c.toLower = c := by
  have hall : "0123456789abcdef".toList.all
      (fun c => isHexDigit c && c.toLower == c) = true := by decide
  have hc := List.all_eq_true.1 hall c h
  rwa [Bool.and_eq_true, beq_iff_eq] at hc

/-- The full spellings are the texts of addresses. -/
theorem isFull_iff : IsFull s ↔ ∃ a : Bytes, a.length = 32 ∧ s = format a := by
  constructor
  · rintro ⟨ds, hs, hlength, hds⟩
    have heven : ds.length % 2 = 0 := by omega
    have hdigits : ∀ c ∈ ds, isHexDigit c = true := fun c hc => (lower_of_mem (hds c hc)).1
    have hlower : ds.map Char.toLower = ds := by
      rw [List.map_congr_left fun c hc => (lower_of_mem (hds c hc)).2, List.map_id']
    obtain ⟨a, ha⟩ := Hex.exists_encodeChars ds heven hdigits
    rw [hlower] at ha
    refine ⟨a, ?_, ?_⟩
    · have hcount := Hex.length_encodeChars a
      rw [← ha] at hcount
      omega
    · apply String.toList_injective
      rw [hs, toList_format, ha]
  · rintro ⟨a, ha, rfl⟩
    exact isFull_format ha

/-! ## Outcomes -/

/-- A text is read as the 32 bytes of the number that it denotes, and refused as malformed if it
denotes none. Two texts are read as one address exactly if they denote one number. An address is
read from its own text, which is the one full spelling of it. -/
theorem parse_text_outcomes (field : String) :
    (∀ s n, Denotes s n →
      ∃ a : Bytes, parse field s = .ok a ∧ a.length = 32 ∧ Bytes.beNat a = n) ∧
    (∀ s, (¬ ∃ n, Denotes s n) → ∃ f, parse field s = .error f ∧ f.IsMalformed field) ∧
    (∀ other s t m n, Denotes s m → Denotes t n → (parse field s = parse other t ↔ m = n)) ∧
    (∀ a : Bytes, a.length = 32 → parse field (format a) = .ok a) ∧
    ∀ s a, parse field s = .ok a → ∀ u, u = format a ↔ IsFull u ∧ parse field u = .ok a := by
  refine ⟨fun s n hn => ?_, fun s => parse_of_not_denotes field,
    fun other s t m n => parse_eq_parse_iff field other, fun a => parse_format,
    fun s a hs u => ⟨?_, ?_⟩⟩
  · exact ⟨_, parse_of_denotes field hn, Bytes.length_beBytes 32 n, hn.beNat_beBytes⟩
  · rintro rfl
    have hlength := length_of_parse hs
    exact ⟨isFull_format hlength, parse_format hlength⟩
  · rintro ⟨hu, hparse⟩
    obtain ⟨b, hb, rfl⟩ := isFull_iff.1 hu
    rw [parse_format hb] at hparse
    rw [Except.ok.inj hparse]

/-- Two digits of an address without its zeros in front, in both letter cases. -/
def shortText : String := "\t0X0aB "

/-- The same address in full. -/
def fullText : String := "0x" ++ String.ofList (List.replicate 62 '0') ++ "ab"

/-- One digit too many. -/
def longText : String := "0x" ++ String.ofList (List.replicate 65 '0')

theorem parse_text_outcomes_spelledTexts :
    (Denotes shortText 0xab ∧ Denotes "00AB" 0xab ∧ Denotes "0xba" 0xba ∧
      parse "recipient" shortText = parse "sender" "00AB" ∧
      parse "recipient" shortText ≠ parse "sender" "0xba") ∧
    (∃ a : Bytes, parse "recipient" shortText = .ok a ∧ a.length = 32 ∧ Bytes.beNat a = 0xab ∧
      parse "recipient" (format a) = .ok a ∧ fullText = format a) ∧
    -- The last one is a full-width digit.
    ∀ s ∈ [longText, "", " ", "0x", "0x0x1", "0x 1", "\uff11"], (¬ ∃ n, Denotes s n) ∧
      ∃ f, parse "recipient" s = .error f ∧ f.IsMalformed "recipient" := by
  obtain ⟨hread, hrefused, hsame, hwritten, hfull⟩ := parse_text_outcomes "recipient"
  have hshort : Denotes shortText 0xab ∧ Denotes "00AB" 0xab ∧ Denotes "0xba" 0xba := by
    decide +kernel
  have hnone : ∀ s ∈ [longText, "", " ", "0x", "0x0x1", "0x 1", "\uff11"],
      ¬ ∃ n, Denotes s n := by decide +kernel
  obtain ⟨a, ha, hlength, hnumber⟩ := hread shortText 0xab hshort.1
  have hdenotes : Denotes fullText 0xab := by decide +kernel
  have hlower : ((fullText.toList.drop 2).all ("0123456789abcdef".toList.contains ·)) = true := by
    decide +kernel
  have hfullText : IsFull fullText := by
    refine ⟨fullText.toList.drop 2, by decide +kernel, by decide +kernel, fun c hc => ?_⟩
    exact List.contains_iff_mem.1 (List.all_eq_true.1 hlower c hc)
  have hparse : parse "recipient" fullText = .ok a :=
    ((hsame "recipient" _ _ _ _ hdenotes hshort.1).2 rfl).trans ha
  obtain ⟨hmixed, hbare, hother⟩ := hshort
  refine ⟨⟨hmixed, hbare, hother, ?_, ?_⟩, ⟨a, ha, hlength, hnumber, hwritten a hlength, ?_⟩,
    fun s hs => ⟨hnone s hs, hrefused s (hnone s hs)⟩⟩
  · exact (hsame "sender" _ _ _ _ hmixed hbare).2 rfl
  · intro h
    cases (hsame "sender" _ _ _ _ hmixed hother).1 h
  · exact (hfull shortText a ha fullText).2 ⟨hfullText, hparse⟩

end Signatory.Sui.Address
