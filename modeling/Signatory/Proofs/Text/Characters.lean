import Mathlib.Data.List.Basic
import Signatory.Text.Blank
import Signatory.Text.Hex
import Signatory.Text.Numeral
import Signatory.Text.Word

/-!
# Classes of characters

1. `isBlank_of_isWord`: no character of a name is a blank. Beyond ASCII the two tables of code
   points lie apart.
2. `trim_eq_self`: a text with no blank at its ends is left as it is, and every trimmed text is one
   (`isTight_trim`). Blanks around such a text are taken away (`trim_append`).
3. `number_encodeChars`: the digits of bytes stand for the number of the bytes.
4. `trim_marked`: no blank stands around bytes in hexadecimal behind their mark.
-/

namespace Signatory

/-- No code point lies in both sets. -/
def CodePoints.areApart (xs ys : CodePoints) : Bool :=
  xs.all fun r => ys.all fun s => decide (r.2 < s.1 ∨ s.2 < r.1)

theorem CodePoints.holds_eq_false_of_areApart {xs ys : CodePoints} (h : xs.areApart ys = true)
    {n : Nat} (hx : xs.holds n = true) : ys.holds n = false := by
  obtain ⟨r, hr, hn⟩ := List.any_eq_true.1 hx
  rw [Bool.and_eq_true, decide_eq_true_eq, decide_eq_true_eq] at hn
  refine List.any_eq_false.2 fun s hs => ?_
  have hapart := of_decide_eq_true (List.all_eq_true.1 (List.all_eq_true.1 h r hr) s hs)
  rw [Bool.and_eq_true, decide_eq_true_eq, decide_eq_true_eq]
  omega

namespace Text

/-! ## Word characters -/

/-- A property of the ASCII characters can be tested on each. -/
theorem forall_ascii {P : Char → Prop} (h : ∀ n < 128, P (Char.ofNat n)) {c : Char}
    (hc : c.toNat < 128) : P c := by
  rw [← Char.ofNat_toNat c]
  exact h _ hc

theorem isBlank_of_isWord {c : Char} (h : isWord c = true) : isBlank c = false := by
  by_cases hc : c.toNat < 128
  · have hascii : ∀ n < 128, isWord (Char.ofNat n) = true → isBlank (Char.ofNat n) = false := by
      decide +kernel
    exact forall_ascii (P := fun c => isWord c = true → isBlank c = false) hascii hc h
  · have hword : wordCodePoints.holds c.toNat = true := by
      unfold isWord at h
      rwa [if_neg hc] at h
    have hapart : wordCodePoints.areApart spaceCodePoints = true := by decide +kernel
    have hspace : isSpace c = false := CodePoints.holds_eq_false_of_areApart hapart hword
    unfold isBlank
    rw [hspace, Bool.false_or, Bool.and_eq_false_iff]
    exact .inr (decide_eq_false (by omega))

/-! ## Trimming -/

section Trim

variable {p : Char → Bool} {cs : List Char}

/-- No character of a set stands at either end of a text. -/
def IsTight (p : Char → Bool) (cs : List Char) : Prop :=
  (∀ c ∈ cs.head?, p c = false) ∧ ∀ c ∈ cs.getLast?, p c = false

theorem isTight_of_forall (h : ∀ c ∈ cs, p c = false) : IsTight p cs :=
  ⟨fun c hc => h c (List.mem_of_mem_head? hc), fun c hc => h c (List.mem_of_mem_getLast? hc)⟩

theorem dropWhile_eq_self (h : ∀ c ∈ cs.head?, p c = false) : cs.dropWhile p = cs := by
  cases cs with
  | nil => rfl
  | cons c cs => rw [List.dropWhile_cons_of_neg (by rw [h c rfl]; exact Bool.false_ne_true)]

theorem trim_eq_self (h : IsTight p cs) : trim p cs = cs := by
  have hlast : ∀ c ∈ cs.reverse.head?, p c = false := by
    rw [List.head?_reverse]
    exact h.2
  unfold trim trimEnd
  rw [dropWhile_eq_self h.1, dropWhile_eq_self hlast, List.reverse_reverse]

theorem head?_dropWhile (cs : List Char) : ∀ c ∈ (cs.dropWhile p).head?, p c = false := by
  intro c hc
  have hnot := List.head?_dropWhile_not p cs
  rwa [Option.mem_def.1 hc] at hnot

/-- What is trimmed is tight. -/
theorem isTight_trim (cs : List Char) : IsTight p (trim p cs) := by
  unfold trim trimEnd
  refine ⟨fun c hc => head?_dropWhile cs c ?_, ?_⟩
  · have hsuffix := List.dropWhile_suffix (l := (cs.dropWhile p).reverse) p
    obtain ⟨ds, hds⟩ := List.reverse_prefix.2 hsuffix
    rw [List.reverse_reverse] at hds
    rw [← hds, List.head?_append, Option.mem_def.1 hc]
    rfl
  · rw [List.getLast?_reverse]
    exact head?_dropWhile _

/-- A text stays tight when the characters at its ends become others that may stand there. -/
theorem IsTight.flatMap {f : Char → List Char} (h : IsTight p cs) (hne : ∀ c, f c ≠ [])
    (hf : ∀ c, p c = false → ∀ d ∈ f c, p d = false) : IsTight p (cs.flatMap f) := by
  constructor
  · cases cs with
    | nil => exact fun d hd => by cases hd
    | cons c cs =>
      intro d hd
      rw [List.flatMap_cons, List.head?_append_of_ne_nil _ (hne c)] at hd
      exact hf c (h.1 c rfl) d (List.mem_of_mem_head? hd)
  · rcases List.eq_nil_or_concat cs with rfl | ⟨cs, c, rfl⟩
    · exact fun d hd => by cases hd
    · intro d hd
      rw [List.concat_eq_append] at h
      rw [List.concat_eq_append, List.flatMap_append, List.flatMap_singleton,
        List.getLast?_append_of_ne_nil _ (hne c)] at hd
      exact hf c (h.2 c List.getLast?_concat) d (List.mem_of_mem_getLast? hd)

theorem toList_strip (s : String) : (strip s).toList = trim isBlank s.toList :=
  String.toList_ofList

theorem isTight_strip (s : String) : IsTight isBlank (strip s).toList := by
  rw [toList_strip]
  exact isTight_trim s.toList

/-- White space counts as blank. -/
theorem IsTight.of_isBlank (h : IsTight isBlank cs) : IsTight isSpace cs :=
  ⟨fun c hc => (Bool.or_eq_false_iff.1 (h.1 c hc)).1,
    fun c hc => (Bool.or_eq_false_iff.1 (h.2 c hc)).1⟩

theorem trim_cons {c : Char} (hc : p c = true) : trim p (c :: cs) = trim p cs := by
  unfold trim
  rw [List.dropWhile_cons_of_pos hc]

theorem trim_trim (cs : List Char) : trim p (trim p cs) = trim p cs :=
  trim_eq_self (isTight_trim cs)

/-- Trimming takes characters of the set away, at both ends. -/
theorem exists_trim (p : Char → Bool) (cs : List Char) :
    ∃ front back, cs = front ++ (trim p cs ++ back) ∧ (∀ c ∈ front, p c = true) ∧
      ∀ c ∈ back, p c = true := by
  have hback : cs.dropWhile p =
      trim p cs ++ ((cs.dropWhile p).reverse.takeWhile p).reverse := by
    unfold trim trimEnd
    rw [← List.reverse_append, List.takeWhile_append_dropWhile, List.reverse_reverse]
  refine ⟨cs.takeWhile p, ((cs.dropWhile p).reverse.takeWhile p).reverse, ?_, ?_, ?_⟩
  · rw [← hback, List.takeWhile_append_dropWhile]
  · exact fun c hc => List.all_eq_true.1 List.all_takeWhile c hc
  · exact fun c hc => List.all_eq_true.1 List.all_takeWhile c (List.mem_reverse.1 hc)

/-- Characters of the set around a tight text are trimmed away. -/
theorem trim_append {front back : List Char} (hfront : ∀ c ∈ front, p c = true)
    (hback : ∀ c ∈ back, p c = true) (h : IsTight p cs) : trim p (front ++ (cs ++ back)) = cs := by
  have hend : ∀ ds, trimEnd p (ds ++ back) = trimEnd p ds := by
    intro ds
    unfold trimEnd
    rw [List.reverse_append,
      List.dropWhile_append_of_pos fun c hc => hback c (List.mem_reverse.1 hc)]
  have htight := trim_eq_self h
  unfold trim at htight ⊢
  rw [dropWhile_eq_self h.1] at htight
  rw [List.dropWhile_append_of_pos hfront]
  cases cs with
  | nil =>
    have hnil : (back ++ []).dropWhile p = [] := List.dropWhile_append_of_pos hback
    rw [List.append_nil] at hnil
    rw [List.nil_append, hnil]
    rfl
  | cons c cs =>
    have hhead : (c :: cs ++ back).dropWhile p = c :: cs ++ back := dropWhile_eq_self h.1
    rw [hhead, hend, htight]

/-- The text has some characters, with blanks around them. -/
def IsPadded (cs : List Char) (s : String) : Prop :=
  ∃ front back, s.toList = front ++ (cs ++ back) ∧ (∀ c ∈ front, isBlank c = true) ∧
    ∀ c ∈ back, isBlank c = true

theorem IsPadded.trim_eq {s : String} (h : IsPadded cs s) (htight : IsTight isBlank cs) :
    trim isBlank s.toList = cs := by
  obtain ⟨front, back, hs, hfront, hback⟩ := h
  rw [hs, trim_append hfront hback htight]

theorem isInfix_trim (p : Char → Bool) (cs : List Char) : trim p cs <:+: cs := by
  obtain ⟨front, back, hcs, -⟩ := exists_trim p cs
  exact ⟨front, back, (List.append_assoc front _ back).trans hcs.symm⟩

end Trim

/-! ## Hexadecimal digits -/

theorem hexValue?_digit (n : Nat) : hexValue? (Hex.digit n) = some (n % 16) := by
  have hdigits : ∀ k < 16, hexValue? (Nat.digitChar k) = some k := by decide
  exact hdigits _ (Nat.mod_lt _ (by decide))

theorem isHexDigit_of_hexValue? {c : Char} {v : Nat} (h : hexValue? c = some v) :
    isHexDigit c = true := by
  unfold isHexDigit
  rw [h]
  rfl

theorem isHexDigit_digit (n : Nat) : isHexDigit (Hex.digit n) = true :=
  isHexDigit_of_hexValue? (hexValue?_digit n)

theorem toNat_of_isHexDigit {c : Char} (h : isHexDigit c = true) : c.toNat < 128 :=
  Nat.lt_of_not_le fun hge => by
    unfold isHexDigit hexValue? at h
    rw [if_neg (by omega), if_neg (by omega), if_neg (by omega)] at h
    cases h

theorem isWord_of_isHexDigit {c : Char} (h : isHexDigit c = true) : isWord c = true := by
  have hascii : ∀ n < 128, isHexDigit (Char.ofNat n) = true → isWord (Char.ofNat n) = true := by
    decide +kernel
  exact forall_ascii (P := fun c => isHexDigit c = true → isWord c = true) hascii
    (toNat_of_isHexDigit h) h

theorem isBlank_of_isHexDigit {c : Char} (h : isHexDigit c = true) : isBlank c = false :=
  isBlank_of_isWord (isWord_of_isHexDigit h)

/-- A text that starts with another character than zero carries no mark. -/
theorem hasHexMark_of_head? {cs : List Char} (h : cs.head? ≠ some '0') :
    hasHexMark cs = false := by
  unfold hasHexMark
  split
  · exact absurd rfl h
  · rfl

theorem cons_of_hasHexMark {cs : List Char} (h : hasHexMark cs = true) :
    ∃ m, cs = '0' :: m :: cs.drop 2 ∧ (m = 'x' ∨ m = 'X') := by
  unfold hasHexMark at h
  split at h
  · rename_i m ds
    rw [Bool.or_eq_true, decide_eq_true_eq, decide_eq_true_eq] at h
    exact ⟨m, rfl, h⟩
  · cases h

/-- Digits make no mark. -/
theorem hasHexMark_of_forall {cs : List Char} (h : ∀ c ∈ cs, isHexDigit c = true) :
    hasHexMark cs = false := by
  rw [Bool.eq_false_iff]
  intro hmark
  obtain ⟨m, hcs, hm⟩ := cons_of_hasHexMark hmark
  have hdigit : isHexDigit m = true := by
    refine h m ?_
    rw [hcs]
    exact List.mem_cons_of_mem _ List.mem_cons_self
  rcases hm with rfl | rfl <;> cases hdigit

/-- The first two characters make a mark. -/
theorem hasHexMark_cons_cons {c d : Char} {cs : List Char} :
    hasHexMark (c :: d :: cs) = true ↔ c = '0' ∧ (d = 'x' ∨ d = 'X') := by
  constructor
  · intro h
    obtain ⟨m, hcs, hm⟩ := cons_of_hasHexMark h
    cases hcs
    exact ⟨rfl, hm⟩
  · rintro ⟨rfl, rfl | rfl⟩ <;> rfl

namespace Hex

theorem length_encodeChars (bs : Bytes) : (encodeChars bs).length = 2 * bs.length := by
  induction bs with
  | nil => rfl
  | cons b bs ih =>
    show (encodeChars bs).length + 1 + 1 = _
    rw [ih, List.length_cons]
    omega

theorem isHexDigit_of_mem_encodeChars {bs : Bytes} {c : Char} (h : c ∈ encodeChars bs) :
    isHexDigit c = true := by
  obtain ⟨b, -, hc⟩ := List.mem_flatMap.1 h
  rw [List.mem_cons, List.mem_singleton] at hc
  rcases hc with rfl | rfl <;> exact isHexDigit_digit _

/-- Bytes are written in lower case. -/
theorem mem_of_mem_encodeChars {bs : Bytes} {c : Char} (h : c ∈ encodeChars bs) :
    c ∈ "0123456789abcdef".toList := by
  have hdigit (n : Nat) : digit n ∈ "0123456789abcdef".toList := by
    have hall : ∀ n < 16, Nat.digitChar n ∈ "0123456789abcdef".toList := by decide
    exact hall (n % 16) (Nat.mod_lt _ (by decide))
  obtain ⟨b, -, hc⟩ := List.mem_flatMap.1 h
  rw [List.mem_cons, List.mem_singleton] at hc
  rcases hc with rfl | rfl <;> exact hdigit _

/-- The two digits of each byte add up to the byte. -/
theorem foldl_encodeChars (bs : Bytes) (n : Nat) :
    ((encodeChars bs).filterMap hexValue?).foldl (fun n d => n * 16 + d) n =
      bs.foldl (fun n b => n * 256 + b.toNat) n := by
  induction bs generalizing n with
  | nil => rfl
  | cons b bs ih =>
    show ((Hex.digit _ :: Hex.digit _ :: encodeChars bs).filterMap hexValue?).foldl _ n = _
    rw [List.filterMap_cons_some (hexValue?_digit _), List.filterMap_cons_some (hexValue?_digit _),
      List.foldl_cons, List.foldl_cons, ih, List.foldl_cons]
    have hb := b.toNat_lt
    congr 1
    omega

theorem number_encodeChars (bs : Bytes) :
    ofDigits 16 ((encodeChars bs).filterMap hexValue?) = Bytes.beNat bs :=
  foldl_encodeChars bs 0

/-- A mark and digits behind it. -/
theorem toList_mark (ds : List Char) : ("0x" ++ String.ofList ds).toList = '0' :: 'x' :: ds := by
  have hmark : "0x".toList = ['0', 'x'] := rfl
  have hdigits : (String.ofList ds).toList = ds := String.toList_ofList
  rw [String.toList_append, hmark, hdigits]
  rfl

theorem trim_mark {ds : List Char} (h : ∀ c ∈ ds, isHexDigit c = true) :
    trim isBlank ('0' :: 'x' :: ds) = '0' :: 'x' :: ds :=
  trim_eq_self (isTight_of_forall (List.forall_mem_cons.2 ⟨by decide,
    List.forall_mem_cons.2 ⟨by decide, fun c hc => isBlank_of_isHexDigit (h c hc)⟩⟩))

theorem toList_marked (bs : Bytes) : ("0x" ++ encode bs).toList = '0' :: 'x' :: encodeChars bs :=
  toList_mark (encodeChars bs)

theorem trim_marked (bs : Bytes) :
    trim isBlank ("0x" ++ encode bs).toList = '0' :: 'x' :: encodeChars bs := by
  rw [toList_marked]
  exact trim_mark fun c hc => isHexDigit_of_mem_encodeChars hc

end Hex

end Text

end Signatory
