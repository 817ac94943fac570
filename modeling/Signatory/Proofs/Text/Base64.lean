import Signatory.Proofs.Text.Characters
import Signatory.Text.Base64

/-!
# Bytes through base 64

1. `decode?_encodeChars`: bytes are read back from their text.
2. `isTight_encodeChars`: no blank stands around the text.
3. `hasHexMark_encodeChars_iff`: some bytes have a text that starts like a hexadecimal one; their
   first two bytes tell which.
-/

namespace Signatory.Text.Base64

/-! ## Digits -/

theorem value?_digit {n : Nat} (h : n < 64) : value? (digit n) = some n := by
  have hdigits : ∀ k < 64, value? (digit k) = some k := by decide
  exact hdigits n h

theorem digit_ne_pad {n : Nat} (h : n < 64) : digit n ≠ '=' := by
  have hdigits : ∀ k < 64, digit k ≠ '=' := by decide
  exact hdigits n h

/-- A text is made of digits and padding. -/
theorem forall_encodeChars {P : Char → Prop} (hdigit : ∀ n < 64, P (digit n)) (hpad : P '=')
    (bs : Bytes) : ∀ c ∈ encodeChars bs, P c := by
  induction bs using encodeChars.induct with
  | case1 => exact List.forall_mem_nil _
  | case2 a =>
    have ha := a.toNat_lt
    simp only [encodeChars, List.forall_mem_cons]
    exact ⟨hdigit _ (by omega), hdigit _ (by omega), hpad, hpad, List.forall_mem_nil _⟩
  | case3 a b =>
    have ha := a.toNat_lt
    have hb := b.toNat_lt
    simp only [encodeChars, List.forall_mem_cons]
    exact ⟨hdigit _ (by omega), hdigit _ (by omega), hdigit _ (by omega), hpad,
      List.forall_mem_nil _⟩
  | case4 a b c rest ih =>
    have ha := a.toNat_lt
    have hb := b.toNat_lt
    have hc := c.toNat_lt
    simp only [encodeChars, List.forall_mem_cons]
    exact ⟨hdigit _ (by omega), hdigit _ (by omega), hdigit _ (by omega), hdigit _ (by omega), ih⟩

theorem isTight_encodeChars (bs : Bytes) : IsTight isBlank (encodeChars bs) := by
  have hblank : ∀ n < 64, isBlank (digit n) = false := by decide +kernel
  exact isTight_of_forall (forall_encodeChars hblank (by decide) bs)

/-! ## Reading back -/

theorem all_pad_eq_false {n : Nat} (h : n < 64) (cs : List Char) :
    (digit n :: cs).all (· == '=') = false := by
  rw [List.all_cons, beq_eq_false_iff_ne.2 (digit_ne_pad h), Bool.false_and]

section Groups

variable {a b c d : Nat} (ha : a < 64) (hb : b < 64)

include ha hb

theorem groups?_one :
    groups? [digit a, digit b, '=', '='] = some [UInt8.ofNat (a * 4 + b / 16)] := by
  simp only [groups?, all_pad_eq_false ha, value?_digit ha, value?_digit hb]
  rfl

theorem groups?_two (hc : c < 64) : groups? [digit a, digit b, digit c, '='] =
    some [UInt8.ofNat (a * 4 + b / 16), UInt8.ofNat (b % 16 * 16 + c / 4)] := by
  rw [groups?, all_pad_eq_false ha, value?_digit ha, value?_digit hb, value?_digit hc]
  · rfl
  · exact digit_ne_pad hc

theorem groups?_three {rest : List Char} {bs : Bytes} (hc : c < 64) (hd : d < 64)
    (hrest : groups? rest = some bs) :
    groups? (digit a :: digit b :: digit c :: digit d :: rest) =
      some (UInt8.ofNat (a * 4 + b / 16) :: UInt8.ofNat (b % 16 * 16 + c / 4) ::
        UInt8.ofNat (c % 4 * 64 + d) :: bs) := by
  rw [groups?, all_pad_eq_false ha, value?_digit ha, value?_digit hb, value?_digit hc,
    value?_digit hd, hrest]
  · rfl
  · exact fun h => absurd h (digit_ne_pad hc)
  · exact fun h => absurd h (digit_ne_pad hd)

end Groups

theorem ofNat_eq {b : UInt8} {n : Nat} (h : n = b.toNat) : UInt8.ofNat n = b := by
  rw [h, UInt8.ofNat_toNat]

/-- The bits of each group are taken apart and put together again. -/
theorem groups?_encodeChars (bs : Bytes) : groups? (encodeChars bs) = some bs := by
  induction bs using encodeChars.induct with
  | case1 => rfl
  | case2 a =>
    have ha := a.toNat_lt
    rw [encodeChars, groups?_one (by omega) (by omega)]
    rw [ofNat_eq (b := a) (by omega)]
  | case3 a b =>
    have ha := a.toNat_lt
    have hb := b.toNat_lt
    rw [encodeChars, groups?_two (by omega) (by omega) (by omega)]
    rw [ofNat_eq (b := a) (by omega), ofNat_eq (b := b) (by omega)]
  | case4 a b c rest ih =>
    have ha := a.toNat_lt
    have hb := b.toNat_lt
    have hc := c.toNat_lt
    rw [encodeChars, groups?_three (by omega) (by omega) (by omega) (by omega) ih]
    rw [ofNat_eq (b := a) (by omega), ofNat_eq (b := b) (by omega), ofNat_eq (b := c) (by omega)]

theorem head?_encodeChars (b : UInt8) (bs : Bytes) :
    (encodeChars (b :: bs)).head? = some (digit (b.toNat / 4)) := by
  match bs with
  | [] | [_] | _ :: _ :: _ => rfl

theorem decode?_encodeChars (bs : Bytes) : decode? (encodeChars bs) = some bs := by
  unfold decode?
  rw [if_neg, groups?_encodeChars]
  cases bs with
  | nil => simp [encodeChars]
  | cons b bs =>
    have hb := b.toNat_lt
    rw [head?_encodeChars, Option.some.injEq]
    exact digit_ne_pad (by omega)

/-- Two byte strings are not written alike. -/
theorem eq_of_encode_eq {as bs : Bytes} (h : encode as = encode bs) : as = bs := by
  have hchars : encodeChars as = encodeChars bs := String.ofList_injective h
  have hread := congrArg decode? hchars
  rw [decode?_encodeChars, decode?_encodeChars] at hread
  exact Option.some.inj hread

/-! ## Texts that start like hexadecimal ones -/

theorem length_encodeChars (bs : Bytes) :
    (encodeChars bs).length = 4 * ((bs.length + 2) / 3) := by
  induction bs using encodeChars.induct with
  | case1 => rfl
  | case2 a | case3 a b => simp [encodeChars]
  | case4 a b c rest ih =>
    simp only [encodeChars, List.length_cons, ih]
    omega

/-- Bytes that start with `D3` and one of `10` to `1F`, or with `D1` and one of `70` to `7F`. -/
def LookLikeHex : Bytes → Prop
  | a :: b :: _ => a = 0xD3 ∧ 0x10 ≤ b ∧ b ≤ 0x1F ∨ a = 0xD1 ∧ 0x70 ≤ b ∧ b ≤ 0x7F
  | [] | [_] => False

instance : DecidablePred LookLikeHex
  | a :: b :: _ => inferInstanceAs
    (Decidable (a = 0xD3 ∧ 0x10 ≤ b ∧ b ≤ 0x1F ∨ a = 0xD1 ∧ 0x70 ≤ b ∧ b ≤ 0x7F))
  | [] | [_] => .isFalse id

theorem two_le_of_lookLikeHex {bs : Bytes} (h : LookLikeHex bs) : 2 ≤ bs.length := by
  match bs with
  | a :: b :: rest => exact Nat.le_add_left 2 rest.length

theorem digit_eq_zero_iff {n : Nat} (h : n < 64) : digit n = '0' ↔ n = 52 := by
  have hdigits : ∀ k < 64, digit k = '0' ↔ k = 52 := by decide
  exact hdigits n h

theorem digit_eq_mark_iff {n : Nat} (h : n < 64) :
    digit n = 'x' ∨ digit n = 'X' ↔ n = 49 ∨ n = 23 := by
  have hdigits : ∀ k < 64, digit k = 'x' ∨ digit k = 'X' ↔ k = 49 ∨ k = 23 := by decide
  exact hdigits n h

/-- The first two characters hold the first byte and half of the second one. -/
theorem hasHexMark_digits_iff (a b : UInt8) (cs : List Char) (bs : Bytes) :
    hasHexMark (digit (a.toNat / 4) :: digit (a.toNat % 4 * 16 + b.toNat / 16) :: cs) = true ↔
      LookLikeHex (a :: b :: bs) := by
  have ha := a.toNat_lt
  have hb := b.toNat_lt
  rw [hasHexMark_cons_cons, digit_eq_zero_iff (by omega), digit_eq_mark_iff (by omega)]
  simp only [LookLikeHex, UInt8.le_iff_toNat_le, ← UInt8.toNat_inj, UInt8.reduceToNat]
  omega

theorem hasHexMark_encodeChars_iff (bs : Bytes) :
    hasHexMark (encodeChars bs) = true ↔ LookLikeHex bs := by
  match bs with
  | [] => exact iff_of_false Bool.false_ne_true id
  | [a] =>
    have ha := a.toNat_lt
    rw [encodeChars, hasHexMark_cons_cons, digit_eq_zero_iff (by omega),
      digit_eq_mark_iff (by omega)]
    exact iff_of_false (by omega) id
  | [a, b] => exact hasHexMark_digits_iff a b _ _
  | a :: b :: c :: rest => exact hasHexMark_digits_iff a b _ _

end Signatory.Text.Base64
