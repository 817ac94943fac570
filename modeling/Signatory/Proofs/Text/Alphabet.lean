import Signatory.Proofs.Bytes
import Signatory.Proofs.Text.Hexadecimal

/-!
# Digits and what they denote

1. `IsAlphabet`: which characters are digits. A text is made of them exactly if it is the digits of
   some values (`IsAlphabet.values_iff`).
2. `Hex.Denotes`: which texts are hexadecimal numerals with or without a mark, and the numbers that
   they denote. `Hex.denotes_iff` says it of the characters behind the mark.
3. `Hex.exists_decode?`: an even number of digits are read as bytes that stand for their number.
-/

namespace Signatory.Text

/-! ## Alphabets -/

/-- The characters for the digits below a base: `p` picks them and `value?` gives their values. Up
to `fold` they are the ones that numbers are written with. -/
structure IsAlphabet (base : Nat) (p : Char → Bool) (value? : Char → Option Nat)
    (fold : Char → Char) : Prop where
  isSome : ∀ c, p c = true → (value? c).isSome = true
  digit_iff : ∀ c v, p c = true ∧ value? c = some v ↔ v < base ∧ fold c = v.digitChar

theorem isAlphabet_decimal : IsAlphabet 10 Char.isDigit decimalValue? id where
  isSome c hc := by
    rw [(decimalValue?_of_isDigit hc).1]
    rfl
  digit_iff c v := by
    constructor
    · rintro ⟨hc, hv⟩
      rw [(decimalValue?_of_isDigit hc).1] at hv
      obtain rfl := Option.some.inj hv
      have hn := toNat_of_isDigit hc
      refine ⟨by omega, ?_⟩
      apply Char.toNat_inj.1
      rw [Nat.toNat_digitChar_of_lt_ten (by omega)]
      show c.toNat = 48 + (c.toNat - 48)
      omega
    · rintro ⟨hv, hc⟩
      have hdigits : ∀ k < 10, k.digitChar.isDigit = true ∧
          decimalValue? k.digitChar = some k := by decide
      have hc' : c = v.digitChar := hc
      rw [hc']
      exact hdigits v hv

theorem isAlphabet_hex : IsAlphabet 16 isHexDigit hexValue? Char.toLower where
  isSome c hc := hc
  digit_iff c v := by
    constructor
    · rintro ⟨hc, hv⟩
      have hascii : ∀ n < 128, ∀ v ∈ hexValue? (Char.ofNat n),
          (Char.ofNat n).toLower = v.digitChar := by decide +kernel
      refine ⟨hexValue?_lt hv, ?_⟩
      exact forall_ascii (P := fun c => ∀ v ∈ hexValue? c, c.toLower = v.digitChar) hascii
        (toNat_of_isHexDigit hc) v hv
    · rintro ⟨hv, hc⟩
      have hvalue : hexValue? c = some v := by
        rw [← hexValue?_toLower, hc, (digitChar_hex hv).1]
      exact ⟨isHexDigit_of_hexValue? hvalue, hvalue⟩

/-- Characters of an alphabet with their values are what digits are written with. -/
theorem IsAlphabet.values_iff {base : Nat} {p : Char → Bool} {value? : Char → Option Nat}
    {fold : Char → Char} (h : IsAlphabet base p value? fold) {ds : List Char} {vs : List Nat} :
    (∀ c ∈ ds, p c = true) ∧ ds.filterMap value? = vs ↔
      (∀ v ∈ vs, v < base) ∧ ds.map fold = vs.map Nat.digitChar := by
  induction ds generalizing vs with
  | nil =>
    cases vs with
    | nil => simp
    | cons v vs => simp
  | cons c ds ih =>
    constructor
    · rintro ⟨hp, rfl⟩
      obtain ⟨hc, hds⟩ := List.forall_mem_cons.1 hp
      obtain ⟨v, hv⟩ := Option.isSome_iff_exists.1 (h.isSome c hc)
      obtain ⟨hlt, hfold⟩ := (h.digit_iff c v).1 ⟨hc, hv⟩
      obtain ⟨hvs, hmap⟩ := ih.1 ⟨hds, rfl⟩
      rw [List.filterMap_cons_some hv, List.map_cons, List.map_cons, hfold, hmap]
      exact ⟨List.forall_mem_cons.2 ⟨hlt, hvs⟩, rfl⟩
    · rintro ⟨hvs, hmap⟩
      cases vs with
      | nil => cases hmap
      | cons v vs =>
        obtain ⟨hlt, hvs⟩ := List.forall_mem_cons.1 hvs
        rw [List.map_cons, List.map_cons, List.cons.injEq] at hmap
        obtain ⟨hc, hv⟩ := (h.digit_iff c v).2 ⟨hlt, hmap.1⟩
        obtain ⟨hds, hrest⟩ := ih.2 ⟨hvs, hmap.2⟩
        rw [List.filterMap_cons_some hv, hrest]
        exact ⟨List.forall_mem_cons.2 ⟨hc, hds⟩, rfl⟩

/-- The number of a digit string that is not empty. -/
theorem IsAlphabet.number_iff {base : Nat} {p : Char → Bool} {value? : Char → Option Nat}
    {fold : Char → Char} (h : IsAlphabet base p value? fold) {ds : List Char} {n : Nat} :
    (if !ds.isEmpty && ds.all p then some (ofDigits base (ds.filterMap value?)) else none) =
        some n ↔
      ∃ vs : List Nat, vs ≠ [] ∧ (∀ v ∈ vs, v < base) ∧ ds.map fold = vs.map Nat.digitChar ∧
        Nat.ofDigits base vs.reverse = n := by
  constructor
  · intro hn
    split at hn
    · rename_i hds
      rw [Bool.and_eq_true, Bool.not_eq_true', List.isEmpty_eq_false_iff, List.all_eq_true] at hds
      obtain ⟨hvs, hmap⟩ := h.values_iff.1 ⟨hds.2, rfl⟩
      refine ⟨_, ?_, hvs, hmap, ?_⟩
      · intro hnil
        rw [hnil] at hmap
        exact hds.1 (List.map_eq_nil_iff.1 hmap)
      · rw [← ofDigits_eq]
        exact Option.some.inj hn
    · cases hn
  · rintro ⟨vs, hne, hvs, hmap, rfl⟩
    obtain ⟨hds, hvalues⟩ := h.values_iff.2 ⟨hvs, hmap⟩
    have hds' : (!ds.isEmpty && ds.all p) = true := by
      rw [Bool.and_eq_true, Bool.not_eq_true', List.isEmpty_eq_false_iff, List.all_eq_true]
      refine ⟨?_, hds⟩
      rintro rfl
      exact hne (List.map_eq_nil_iff.1 hmap.symm)
    rw [if_pos hds', hvalues, ofDigits_eq]

/-! ## Hexadecimal numerals -/

namespace Hex

/-- The characters behind the mark, if there is one. -/
def unmarked (cs : List Char) : List Char :=
  if hasHexMark cs then cs.drop 2 else cs

/-- What may stand in front of digits: nothing, or a mark with either letter. -/
def IsMark (mark : List Char) : Prop :=
  mark = [] ∨ mark = ['0', 'x'] ∨ mark = ['0', 'X']

/-- A text is a hexadecimal numeral of some digits, up to a limit, and denotes a number. The digits
`vs` are in any letter case and have the most significant one first. -/
inductive Denotes (limit : Nat) : List Char → Nat → Prop
  | intro {mark ds : List Char} {vs : List Nat} (hmark : IsMark mark) (hne : vs ≠ [])
      (hlimit : vs.length ≤ limit) (hvs : ∀ v ∈ vs, v < 16)
      (hds : ds.map Char.toLower = vs.map Nat.digitChar) :
    Denotes limit (mark ++ ds) (Nat.ofDigits 16 vs.reverse)

section Denotes

variable {limit n : Nat} {cs ds : List Char}

theorem unmarked_append {mark : List Char} (hmark : IsMark mark)
    (h : ∀ c ∈ ds, isHexDigit c = true) : unmarked (mark ++ ds) = ds := by
  rcases hmark with rfl | rfl | rfl
  · exact if_neg (ne_true_of_eq_false (hasHexMark_of_forall h))
  · rfl
  · rfl

theorem exists_mark (cs : List Char) : ∃ mark, IsMark mark ∧ cs = mark ++ unmarked cs := by
  unfold unmarked
  split
  · rename_i hmark
    obtain ⟨m, hcs, rfl | rfl⟩ := cons_of_hasHexMark hmark
    · exact ⟨['0', 'x'], .inr (.inl rfl), hcs⟩
    · exact ⟨['0', 'X'], .inr (.inr rfl), hcs⟩
  · exact ⟨[], .inl rfl, rfl⟩

/-- A text denotes a number exactly if there are digits behind the mark, up to the limit and nothing
else, and they stand for it. -/
theorem denotes_iff : Denotes limit cs n ↔ unmarked cs ≠ [] ∧ (unmarked cs).length ≤ limit ∧
    (∀ c ∈ unmarked cs, isHexDigit c = true) ∧
      ofDigits 16 ((unmarked cs).filterMap hexValue?) = n := by
  constructor
  · rintro ⟨hmark, hne, hlimit, hvs, hds⟩
    obtain ⟨hdigits, hvalues⟩ := isAlphabet_hex.values_iff.2 ⟨hvs, hds⟩
    have hlength := congrArg List.length hds
    rw [List.length_map, List.length_map] at hlength
    rw [unmarked_append hmark hdigits, hvalues, ofDigits_eq, hlength]
    refine ⟨?_, hlimit, hdigits, rfl⟩
    rintro rfl
    exact hne (List.length_eq_zero_iff.1 hlength.symm)
  · rintro ⟨hne, hlimit, hdigits, rfl⟩
    obtain ⟨mark, hmark, hcs⟩ := exists_mark cs
    obtain ⟨hvs, hds⟩ := isAlphabet_hex.values_iff.1 ⟨hdigits, rfl⟩
    have hlength := congrArg List.length hds
    rw [List.length_map, List.length_map] at hlength
    rw [ofDigits_eq]
    generalize (unmarked cs).filterMap hexValue? = vs at hvs hds hlength ⊢
    rw [hcs]
    refine .intro hmark ?_ (hlength ▸ hlimit) hvs hds
    rintro rfl
    exact hne (List.length_eq_zero_iff.1 hlength)

instance (limit : Nat) (cs : List Char) (n : Nat) : Decidable (Denotes limit cs n) :=
  decidable_of_iff (unmarked cs ≠ [] ∧ (unmarked cs).length ≤ limit ∧
    (unmarked cs).all isHexDigit = true ∧ ofDigits 16 ((unmarked cs).filterMap hexValue?) = n)
      (by rw [denotes_iff, List.all_eq_true])

instance (limit : Nat) (cs : List Char) : Decidable (∃ n, Denotes limit cs n) :=
  decidable_of_iff (unmarked cs ≠ [] ∧ (unmarked cs).length ≤ limit ∧
    (unmarked cs).all isHexDigit = true) (by simp [denotes_iff])

/-- What denotes a number starts with a digit. -/
theorem Denotes.head? (h : Denotes limit cs n) : ∃ c, cs.head? = some c ∧ isHexDigit c = true := by
  obtain ⟨hne, -, hdigits, -⟩ := denotes_iff.1 h
  obtain ⟨mark, hmark, hcs⟩ := exists_mark cs
  obtain ⟨d, ds, hds⟩ := List.exists_cons_of_ne_nil hne
  rw [hcs]
  rcases hmark with rfl | rfl | rfl
  · rw [hds] at hdigits ⊢
    exact ⟨d, rfl, hdigits d List.mem_cons_self⟩
  · exact ⟨'0', rfl, rfl⟩
  · exact ⟨'0', rfl, rfl⟩

/-- The digits are too few for a larger number. -/
theorem Denotes.lt (h : Denotes limit cs n) : n < Nat.pow 16 limit := by
  obtain ⟨-, -, hlimit, hvs, -⟩ := h
  rw [← ofDigits_eq]
  exact Nat.lt_of_lt_of_le (ofDigits_lt hvs) (Nat.pow_le_pow_right (by decide) hlimit)

/-- The digits of bytes denote the number of the bytes, with a mark or without one. -/
theorem denotes_encodeChars {mark : List Char} (hmark : IsMark mark)
    {bs : Bytes} (hne : bs ≠ []) (hlimit : 2 * bs.length ≤ limit) :
    Denotes limit (mark ++ encodeChars bs) (Bytes.beNat bs) := by
  have hdigits : ∀ c ∈ encodeChars bs, isHexDigit c = true :=
    fun _ hc => isHexDigit_of_mem_encodeChars hc
  rw [denotes_iff, unmarked_append hmark hdigits, length_encodeChars]
  refine ⟨?_, hlimit, hdigits, number_encodeChars bs⟩
  cases bs with
  | nil => exact absurd rfl hne
  | cons b bs => exact List.cons_ne_nil _ _

end Denotes

/-! ## Digits of bytes -/

section Bytes

variable {ds : List Char}

/-- Two digits are those of a byte. -/
theorem exists_digits {c d : Char} (hc : isHexDigit c = true) (hd : isHexDigit d = true) :
    ∃ b : UInt8, c.toLower = digit (b.toNat / 16) ∧ d.toLower = digit b.toNat := by
  obtain ⟨h, hh⟩ := Option.isSome_iff_exists.1 hc
  obtain ⟨l, hl⟩ := Option.isSome_iff_exists.1 hd
  obtain ⟨hhigh, hc⟩ := (isAlphabet_hex.digit_iff c h).1 ⟨hc, hh⟩
  obtain ⟨hlow, hd⟩ := (isAlphabet_hex.digit_iff d l).1 ⟨hd, hl⟩
  have hbyte : (UInt8.ofNat (16 * h + l)).toNat = 16 * h + l :=
    Nat.mod_eq_of_lt (by omega)
  refine ⟨UInt8.ofNat (16 * h + l), ?_, ?_⟩
  · rw [hc, hbyte, digit]
    congr 1
    omega
  · rw [hd, hbyte, digit]
    congr 1
    omega

/-- An even number of digits are those of bytes; by induction on the pairs of them. -/
theorem exists_encodeChars : ∀ ds : List Char, ds.length % 2 = 0 →
    (∀ c ∈ ds, isHexDigit c = true) → ∃ bs, ds.map Char.toLower = encodeChars bs
  | [], _, _ => ⟨[], rfl⟩
  | [_], heven, _ => by cases heven
  | c :: d :: ds, heven, hdigits => by
    obtain ⟨hc, hrest⟩ := List.forall_mem_cons.1 hdigits
    obtain ⟨hd, hds⟩ := List.forall_mem_cons.1 hrest
    have heven' : ds.length % 2 = 0 := by
      simp only [List.length_cons] at heven
      omega
    obtain ⟨bs, hbs⟩ := exists_encodeChars ds heven' hds
    obtain ⟨b, hhigh, hlow⟩ := exists_digits hc hd
    refine ⟨b :: bs, ?_⟩
    rw [List.map_cons, List.map_cons, hhigh, hlow, hbs]
    rfl

/-- They are read as bytes that stand for their number. -/
theorem exists_decode? (heven : ds.length % 2 = 0) (hdigits : ∀ c ∈ ds, isHexDigit c = true) :
    ∃ bs, decode? ds = some bs ∧ 2 * bs.length = ds.length ∧
      Bytes.beNat bs = ofDigits 16 (ds.filterMap hexValue?) := by
  obtain ⟨bs, hbs⟩ := exists_encodeChars ds heven hdigits
  refine ⟨bs, decode?_of_toLower hbs, ?_, ?_⟩
  · rw [← length_encodeChars, ← hbs, List.length_map]
  · have hvalues : (ds.map Char.toLower).filterMap hexValue? = ds.filterMap hexValue? := by
      rw [List.filterMap_map]
      exact List.filterMap_congr fun c _ => hexValue?_toLower c
    rw [← number_encodeChars, ← hbs, hvalues]

end Bytes

end Hex

end Signatory.Text
