import Signatory.Proofs.Text.Characters
import Signatory.Sui.Address

/-!
# Texts of addresses

1. `parse_marked`: one to sixty-four digits behind a mark are read as the number they stand for, and
   more are refused. So the text of an address is read as the address (`parse_format`).
2. What `parse` gives has the length of an address.
3. `IsFull`: addresses spelled in full, two of them differently (`format_inj`).
-/

namespace Signatory.Sui.Address

open Text

theorem toList_format (a : Bytes) : (format a).toList = '0' :: 'x' :: Hex.encodeChars a :=
  Hex.toList_marked a

/-- Hexadecimal digits behind a mark. -/
theorem parse_marked {field : String} {ds : List Char} (hne : ds ≠ [])
    (hds : ∀ c ∈ ds, isHexDigit c = true) : parse field ("0x" ++ String.ofList ds) =
      if ds.length ≤ 2 * addressLength then .ok (Bytes.beBytes addressLength (number ds))
      else .error (.invalidText field ("0x" ++ String.ofList ds)) := by
  have hdigits : digits ("0x" ++ String.ofList ds) = ds := by
    unfold digits
    rw [Hex.toList_mark, Hex.trim_mark hds]
    rfl
  have hblank : isBlankText ("0x" ++ String.ofList ds) = false := by
    unfold isBlankText
    rw [Hex.toList_mark]
    rfl
  have hpos : 1 ≤ ds.length := List.length_pos_iff.2 hne
  unfold parse
  rw [hdigits, hblank, if_neg Bool.false_ne_true]
  simp only [hpos, List.all_eq_true.2 hds, and_true, true_and]

/-- The text of an address is read as the address. -/
theorem parse_format {field : String} {a : Bytes} (ha : a.length = addressLength) :
    parse field (format a) = .ok a := by
  have hlength : (Hex.encodeChars a).length = 2 * addressLength := by
    rw [Hex.length_encodeChars, ha]
  have hne : Hex.encodeChars a ≠ [] := by
    rw [← List.length_pos_iff, hlength]
    decide
  have hnumber : number (Hex.encodeChars a) = Bytes.beNat a := Hex.number_encodeChars a
  have hdigits : ∀ c ∈ Hex.encodeChars a, isHexDigit c = true :=
    fun c hc => Hex.isHexDigit_of_mem_encodeChars hc
  have hparse : parse field (format a) = _ := parse_marked hne hdigits
  rw [if_pos (Nat.le_of_eq hlength), hnumber, ← ha, Bytes.beBytes_beNat] at hparse
  exact hparse

theorem length_of_parse {field s : String} {a : Bytes} (h : parse field s = .ok a) :
    a.length = addressLength := by
  unfold parse at h
  split at h
  · cases h
  · dsimp only at h
    split at h
    · cases h
      exact Bytes.length_beBytes _ _
    · cases h

/-! ## Addresses spelled in full -/

/-- The text is `0x` and 64 digits in lower case. -/
def IsFull (s : String) : Prop :=
  ∃ ds, s.toList = '0' :: 'x' :: ds ∧ ds.length = 64 ∧ ∀ c ∈ ds, c ∈ "0123456789abcdef".toList

theorem isFull_format {a : Bytes} (ha : a.length = addressLength) : IsFull (format a) := by
  refine ⟨Hex.encodeChars a, toList_format a, ?_, fun c hc => Hex.mem_of_mem_encodeChars hc⟩
  rw [Hex.length_encodeChars, ha]
  rfl

/-- Different addresses are spelled differently. -/
theorem format_inj {a b : Bytes} (ha : a.length = addressLength) (hb : b.length = addressLength)
    (h : format a = format b) : a = b := by
  have hparse : parse "address" (format a) = .ok a := parse_format ha
  rw [h, parse_format hb] at hparse
  exact (Except.ok.inj hparse).symm

end Signatory.Sui.Address
