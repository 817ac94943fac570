import Signatory.Proofs.Refusal
import Signatory.Proofs.Starknet.Hash
import Signatory.Proofs.Text.Hexadecimal

/-!
# Texts of field elements

1. `Felt.parse_format`: the text of a field element is read as the field element.
2. `Felt.parse_cases` says all that reading a text can answer. Only a decimal numeral of too many
   digits (`Felt.IsLong`) ends in a failure that is no refusal.
-/

namespace Signatory.Starknet.Felt

open Text

/-! ## Writing and reading -/

/-- The text of a number. -/
def text (n : Nat) : String :=
  "0x" ++ Hex.encode (Bytes.beBytes 32 n)

theorem format_eq {n : Int} (hn : IsFelt n) : format n = .ok (text n.toNat) := by
  have hprime := fieldPrime_lt
  unfold IsFelt at hn
  unfold format
  rw [if_pos ⟨hn.1, by omega⟩]
  rfl

theorem text_ne_empty (n : Nat) : (text n).isEmpty = false := by
  rw [Bool.eq_false_iff]
  intro hempty
  have hlist : (text n).toList = '0' :: 'x' :: Hex.encodeChars (Bytes.beBytes 32 n) :=
    Hex.toList_marked _
  rw [String.isEmpty_iff.1 hempty] at hlist
  cases hlist

theorem isEmpty_of_format {n : Int} {s : String} (h : format n = .ok s) : s.isEmpty = false := by
  unfold format at h
  split at h
  · obtain rfl := Except.ok.inj h
    exact text_ne_empty n.toNat
  · cases h

theorem number?_marked {bs : Bytes} (hbs : bs ≠ []) :
    number? ('0' :: 'x' :: Hex.encodeChars bs) = some (Bytes.beNat bs) := by
  have hdigits : (!(Hex.encodeChars bs).isEmpty &&
      (Hex.encodeChars bs).all isHexDigit) = true := by
    rw [Bool.and_eq_true]
    refine ⟨?_, List.all_eq_true.2 fun c hc => Hex.isHexDigit_of_mem_encodeChars hc⟩
    cases bs with
    | nil => exact absurd rfl hbs
    | cons b bs => rfl
  have hmark : hasHexMark ('0' :: 'x' :: Hex.encodeChars bs) = true := rfl
  have hdrop : ('0' :: 'x' :: Hex.encodeChars bs).drop 2 = Hex.encodeChars bs := rfl
  unfold number?
  rw [if_pos hmark, hdrop]
  dsimp only
  rw [if_pos hdigits, Hex.number_encodeChars]

/-- The text of a field element is read as the field element. -/
theorem parse_text {field : String} {n : Nat} (hn : n < fieldPrime) :
    parse field (text n) = .ok n := by
  have hcapacity := fieldPrime_lt
  have hbytes : Bytes.beBytes 32 n ≠ [] := List.ne_nil_of_length_pos (by
    rw [Bytes.length_beBytes]
    decide)
  have htrim : trim isBlank (text n).toList =
      '0' :: 'x' :: Hex.encodeChars (Bytes.beBytes 32 n) := Hex.trim_marked _
  have hshort : isTooLong ('0' :: 'x' :: Hex.encodeChars (Bytes.beBytes 32 n)) = false := rfl
  unfold parse
  rw [htrim]
  dsimp only [List.isEmpty_cons]
  rw [if_neg Bool.false_ne_true, hshort, if_neg Bool.false_ne_true, number?_marked hbytes,
    Bytes.beNat_beBytes, Nat.mod_eq_of_lt (Nat.lt_trans hn hcapacity)]
  dsimp only
  rw [if_pos hn]

theorem parse_format {field s : String} {n : Int} (hn : IsFelt n) (h : format n = .ok s) :
    parse field s = .ok n.toNat := by
  obtain rfl : text n.toNat = s := Except.ok.inj ((format_eq hn).symm.trans h)
  unfold IsFelt at hn
  exact parse_text (by omega)

/-! ## What reading answers -/

/-- A decimal numeral of more digits than one may have, with blanks around it. -/
def IsLong (s : String) : Prop :=
  isTooLong (trim isBlank s.toList) = true

theorem lt_of_parse {field s : String} {n : Nat} (h : parse field s = .ok n) :
    n < fieldPrime := by
  unfold parse at h
  dsimp only at h
  split at h
  · cases h
  · split at h
    · cases h
    · split at h
      · cases h
      · split at h
        · cases h
          assumption
        · cases h

/-- Reading gives a number, one of three refusals, or the failure for a numeral that is too
long. -/
theorem parse_cases (field s : String) :
    (∃ n, parse field s = .ok n) ∨
      (∃ f, parse field s = .error f ∧
        (f = .missing field ∨ f = .notANumber field s ∨ f = .aboveFieldPrime field)) ∨
      parse field s = .error .tooManyDigits ∧ IsLong s := by
  unfold parse IsLong
  dsimp only
  split
  · exact .inr (.inl ⟨_, rfl, .inl rfl⟩)
  · split
    · rename_i hlong
      exact .inr (.inr ⟨rfl, hlong⟩)
    · split
      · exact .inr (.inl ⟨_, rfl, .inr (.inl rfl)⟩)
      · split
        · exact .inl ⟨_, rfl⟩
        · exact .inr (.inl ⟨_, rfl, .inr (.inr rfl)⟩)

theorem failsIn_parse {long : Prop} {field s : String} (hlong : IsLong s → long) :
    Outcome.FailsIn (Failure.RefusesUnless long) (parse field s) := by
  intro f hf
  rcases parse_cases field s with ⟨n, hn⟩ | ⟨g, hg, hkind⟩ | ⟨herror, hs⟩
  · cases hn.symm.trans hf
  · obtain rfl : g = f := Except.error.inj (hg.symm.trans hf)
    rcases hkind with rfl | rfl | rfl <;> exact .inl rfl
  · obtain rfl := Except.error.inj (herror.symm.trans hf)
    exact .inr ⟨rfl, hlong hs⟩

/-- A numeral that is too long is never read. -/
theorem parse_of_isLong {field s : String} (h : IsLong s) :
    parse field s = .error .tooManyDigits := by
  unfold IsLong at h
  have hne : (trim isBlank s.toList).isEmpty = false := by
    rw [Bool.eq_false_iff]
    intro hempty
    rw [List.isEmpty_iff.1 hempty] at h
    exact absurd h (by decide)
  unfold parse
  dsimp only
  rw [hne, if_neg Bool.false_ne_true, if_pos h]

theorem isLong_of_isDigit {cs : List Char} (hdigits : ∀ c ∈ cs, c.isDigit = true)
    (hlength : digitLimit < cs.length) : IsLong (String.ofList cs) := by
  have htight : IsTight isBlank cs :=
    isTight_of_forall fun c hc => isBlank_of_isHexDigit (isHexDigit_of_isDigit (hdigits c hc))
  unfold IsLong isTooLong
  rw [String.toList_ofList, trim_eq_self htight, Bool.and_eq_true]
  exact ⟨List.all_eq_true.2 hdigits, decide_eq_true hlength⟩

end Signatory.Starknet.Felt
