import Signatory.Proofs.Starknet.FeltText
import Signatory.Proofs.Text.Alphabet

/-!
# The numerals of field elements

1. `Felt.Denotes`: which texts are numerals, and the numbers that they denote. There are two
   alphabets and nothing else: no sign, no fraction, no exponent, no underscore.
2. `Felt.number?_eq_some_iff`: a number is read from exactly these texts.
3. `Felt.parse_outcomes`: a text is read as a field element, or refused as too large, or refused as
   malformed, and what it denotes decides which.
-/

namespace Signatory

/-- A refusal of a number as too large that names the field at fault. -/
def Failure.IsOverflow (field : String) (f : Failure) : Prop :=
  f.code? = some .numericOverflow ∧ f.field? = some field

namespace Starknet.Felt

open Text

/-! ## Numerals -/

/-- A text is a numeral and denotes a number. The digits `vs` have the most significant one first,
any number of them; behind a mark they are hexadecimal ones in any letter case. -/
inductive Denotes : List Char → Nat → Prop
  | hexadecimal {mark : Char} {ds : List Char} {vs : List Nat} (hmark : mark = 'x' ∨ mark = 'X')
      (hne : vs ≠ []) (hvs : ∀ v ∈ vs, v < 16)
      (hds : ds.map Char.toLower = vs.map Nat.digitChar) :
    Denotes ('0' :: mark :: ds) (Nat.ofDigits 16 vs.reverse)
  | decimal {vs : List Nat} (hne : vs ≠ []) (hvs : ∀ v ∈ vs, v < 10) :
    Denotes (vs.map Nat.digitChar) (Nat.ofDigits 10 vs.reverse)

theorem hasHexMark_map_digitChar {vs : List Nat} (h : ∀ v ∈ vs, v < 10) :
    hasHexMark (vs.map Nat.digitChar) = false := by
  refine hasHexMark_of_forall (List.forall_mem_map.2 fun v hv => isHexDigit_digitChar ?_)
  exact Nat.lt_trans (h v hv) (by decide)

/-- A number is read from exactly the texts that denote it. -/
theorem number?_eq_some_iff {cs : List Char} {n : Nat} : number? cs = some n ↔ Denotes cs n := by
  unfold number?
  constructor
  · intro h
    split at h
    · rename_i hmark
      obtain ⟨vs, hne, hvs, hds, rfl⟩ := isAlphabet_hex.number_iff.1 h
      obtain ⟨m, hcs, hm⟩ := cons_of_hasHexMark hmark
      rw [hcs]
      exact .hexadecimal hm hne hvs hds
    · obtain ⟨vs, hne, hvs, hcs, rfl⟩ := isAlphabet_decimal.number_iff.1 h
      rw [List.map_id] at hcs
      rw [hcs]
      exact .decimal hne hvs
  · intro h
    cases h with
    | hexadecimal hmark hne hvs hds =>
      rw [if_pos (hasHexMark_cons_cons.2 ⟨rfl, hmark⟩)]
      exact isAlphabet_hex.number_iff.2 ⟨_, hne, hvs, hds, rfl⟩
    | decimal hne hvs =>
      rw [hasHexMark_map_digitChar hvs, if_neg Bool.false_ne_true]
      exact isAlphabet_decimal.number_iff.2 ⟨_, hne, hvs, List.map_id _, rfl⟩

/-! ## Reading -/

section Reading

variable {field s : String} {n : Nat}

theorem parse_of_denotes (hlong : ¬ IsLong s) (h : Denotes (trim isBlank s.toList) n) :
    parse field s = if n < fieldPrime then .ok n else .error (.aboveFieldPrime field) := by
  have hnumber := number?_eq_some_iff.2 h
  have hne : (trim isBlank s.toList).isEmpty = false := by
    rw [List.isEmpty_eq_false_iff]
    intro hnil
    rw [hnil] at hnumber
    cases hnumber
  unfold IsLong at hlong
  unfold parse
  dsimp only
  rw [hne, if_neg Bool.false_ne_true, if_neg hlong, hnumber]

theorem parse_of_not_denotes (hlong : ¬ IsLong s)
    (h : ¬ ∃ n, Denotes (trim isBlank s.toList) n) :
    ∃ f, parse field s = .error f ∧ f.IsMalformed field := by
  have hnumber : number? (trim isBlank s.toList) = none := by
    rw [Option.eq_none_iff_forall_ne_some]
    intro n hn
    exact h ⟨n, number?_eq_some_iff.1 hn⟩
  unfold IsLong at hlong
  unfold parse
  dsimp only
  by_cases hnil : (trim isBlank s.toList).isEmpty = true
  · rw [if_pos hnil]
    exact ⟨_, rfl, rfl, rfl⟩
  · rw [if_neg hnil, if_neg hlong, hnumber]
    exact ⟨_, rfl, rfl, rfl⟩

end Reading

/-! ## Writing and reading -/

/-- The decimal numeral of a number denotes it. -/
theorem denotes_toDigits (n : Nat) : Denotes (Nat.toDigits 10 n) n := by
  have hdigits : (!(Nat.toDigits 10 n).isEmpty && (Nat.toDigits 10 n).all Char.isDigit) = true := by
    rw [Bool.and_eq_true, Bool.not_eq_true', List.isEmpty_eq_false_iff, List.all_eq_true]
    exact ⟨Nat.toDigits_ne_nil, isDigit_of_mem_toDigits⟩
  have hnumber : ofDigits 10 ((Nat.toDigits 10 n).filterMap decimalValue?) = n := by
    rw [filterMap_toDigits, ofDigits_toDigits]
  obtain ⟨vs, hne, hvs, hcs, rfl⟩ :=
    isAlphabet_decimal.number_iff.1 ((if_pos hdigits).trans (congrArg some hnumber))
  rw [List.map_id] at hcs
  rw [hcs]
  exact .decimal hne hvs

/-- The decimal numeral of a field element is read as the field element. -/
theorem parse_digits {field : String} {n : Nat} (h : n < fieldPrime) :
    parse field (digits n) = .ok n := by
  have htrim : trim isBlank (digits n).toList = Nat.toDigits 10 n := by
    rw [toList_digits]
    exact trim_eq_self (isTight_of_forall fun c hc =>
      isBlank_of_isHexDigit (isHexDigit_of_isDigit (isDigit_of_mem_toDigits c hc)))
  have hshort : ¬ IsLong (digits n) := by
    have hlength : (Nat.toDigits 10 n).length ≤ 77 :=
      length_toDigits_le (by decide) (Nat.lt_trans h (by decide))
    have hlimit : digitLimit = 4300 := rfl
    unfold IsLong isTooLong
    rw [htrim, Bool.and_eq_true, decide_eq_true_eq]
    omega
  have hdenotes : Denotes (trim isBlank (digits n).toList) n := by
    rw [htrim]
    exact denotes_toDigits n
  rw [parse_of_denotes hshort hdenotes, if_pos h]

/-- A text is read as the number below the prime that it denotes, refused as too large if it denotes
another number, and refused as malformed if it denotes none. Only a decimal numeral of too many
digits is left out. Both texts of a field element are read as the field element. -/
theorem parse_outcomes (field : String) :
    (∀ s, ¬ IsLong s →
      (∀ n, Denotes (trim isBlank s.toList) n → n < fieldPrime → parse field s = .ok n) ∧
      (∀ n, Denotes (trim isBlank s.toList) n → fieldPrime ≤ n →
        ∃ f, parse field s = .error f ∧ f.IsOverflow field) ∧
      ((¬ ∃ n, Denotes (trim isBlank s.toList) n) →
        ∃ f, parse field s = .error f ∧ f.IsMalformed field)) ∧
    ∀ x < fieldPrime, (∃ text, format x = .ok text ∧ parse field text = .ok x) ∧
      parse field (digits x) = .ok x := by
  refine ⟨fun s hlong => ⟨fun n hn hlt => ?_, fun n hn hle => ?_, fun h => ?_⟩,
    fun x hx => ⟨?_, ?_⟩⟩
  · rw [parse_of_denotes hlong hn, if_pos hlt]
  · refine ⟨.aboveFieldPrime field, ?_, rfl, rfl⟩
    rw [parse_of_denotes hlong hn, if_neg (Nat.not_lt.2 hle)]
  · exact parse_of_not_denotes hlong h
  · exact ⟨text x, format_eq (isFelt_natCast.2 hx), parse_text hx⟩
  · exact parse_digits hx

/-- The largest number of 64 hexadecimal digits. -/
def largeText : String := text (Bytes.capacity 32 - 1)

theorem parse_outcomes_spelledTexts :
    (¬ IsLong "\t0X00fF " ∧ Denotes (trim isBlank "\t0X00fF ".toList) 255 ∧ 255 < fieldPrime ∧
      parse "amount" "\t0X00fF " = .ok 255) ∧
    (¬ IsLong largeText ∧ Denotes (trim isBlank largeText.toList) (Bytes.capacity 32 - 1) ∧
      fieldPrime ≤ Bytes.capacity 32 - 1 ∧
      ∃ f, parse "amount" largeText = .error f ∧ f.IsOverflow "amount") ∧
    (¬ IsLong "1_000" ∧ (¬ ∃ n, Denotes (trim isBlank "1_000".toList) n) ∧
      ∃ f, parse "amount" "1_000" = .error f ∧ f.IsMalformed "amount") ∧
    fieldPrime - 1 < fieldPrime ∧
      parse "amount" (digits (fieldPrime - 1)) = .ok (fieldPrime - 1) := by
  obtain ⟨hread, hwritten⟩ := parse_outcomes "amount"
  have hshort : ¬ IsLong "\t0X00fF " ∧ ¬ IsLong largeText ∧ ¬ IsLong "1_000" := by
    unfold IsLong
    decide +kernel
  have hsmall : Denotes (trim isBlank "\t0X00fF ".toList) 255 :=
    number?_eq_some_iff.1 (by decide +kernel)
  have hlarge : Denotes (trim isBlank largeText.toList) (Bytes.capacity 32 - 1) :=
    number?_eq_some_iff.1 (by decide +kernel)
  have hnone : ¬ ∃ n, Denotes (trim isBlank "1_000".toList) n := by
    rintro ⟨n, hn⟩
    have hnumber : number? (trim isBlank "1_000".toList) = none := by decide +kernel
    cases hnumber.symm.trans (number?_eq_some_iff.2 hn)
  have hbelow : 255 < fieldPrime := by decide
  have habove : fieldPrime ≤ Bytes.capacity 32 - 1 := by decide
  have hlast : fieldPrime - 1 < fieldPrime := by decide
  refine ⟨⟨hshort.1, hsmall, hbelow, ?_⟩, ⟨hshort.2.1, hlarge, habove, ?_⟩,
    ⟨hshort.2.2, hnone, ?_⟩, hlast, (hwritten _ hlast).2⟩
  · exact (hread _ hshort.1).1 255 hsmall hbelow
  · exact (hread _ hshort.2.1).2.1 _ hlarge habove
  · exact (hread _ hshort.2.2).2.2 hnone

end Starknet.Felt

end Signatory
