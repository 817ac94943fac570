import Signatory.Proofs.Text.Numeral
import Signatory.Text.LetterCase

/-!
# Hexadecimal numerals and letter case

1. `toList_lower`: an ASCII text is put in lower case character by character.
2. `hexadecimal?_marked`: the lower-case form of a marked numeral stands for the number of its
   digits.
3. `hexadecimal?_hexDigits`: a number that is written behind its mark is read back.
4. `Hex.decode?_of_toLower`: bytes are read from their digits in either letter case.
5. `ofDigits_lt`: digits stand for less than the base to the power of their count.
-/

namespace Signatory.Text

/-! ## Lower case -/

theorem lowerFrom_ascii {cs : List Char} (h : ∀ c ∈ cs, c.toNat < 128) (before : List Char) :
    lowerFrom before cs = cs.map Char.toLower := by
  induction cs generalizing before with
  | nil => rfl
  | cons c cs ih =>
    obtain ⟨hc, hcs⟩ := List.forall_mem_cons.1 h
    rw [lowerFrom, if_pos hc, ih hcs, List.map_cons]
    rfl

theorem toList_lower {s : String} (h : ∀ c ∈ s.toList, c.toNat < 128) :
    (lower s).toList = s.toList.map Char.toLower := by
  unfold lower
  rw [String.toList_ofList, lowerFrom_ascii h]

/-! ## Digits -/

theorem hexValue?_lt {c : Char} {v : Nat} (h : hexValue? c = some v) : v < 16 := by
  unfold hexValue? at h
  dsimp only at h
  split at h
  · cases h
    omega
  · split at h
    · cases h
      omega
    · split at h
      · cases h
        omega
      · cases h

/-- A digit in lower case is no other digit of a numeral, no underscore and no white space. -/
theorem toLower_of_isHexDigit {c : Char} (h : isHexDigit c = true) :
    hexNumeralValue? c.toLower = hexValue? c ∧ c.toLower ≠ '_' ∧ c.toLower ≠ 'x' ∧
      isSpace c.toLower = false := by
  have hascii : ∀ n < 128, isHexDigit (Char.ofNat n) = true →
      hexNumeralValue? (Char.ofNat n).toLower = hexValue? (Char.ofNat n) ∧
        (Char.ofNat n).toLower ≠ '_' ∧ (Char.ofNat n).toLower ≠ 'x' ∧
          isSpace (Char.ofNat n).toLower = false := by
    decide +kernel
  exact forall_ascii (P := fun c => isHexDigit c = true → hexNumeralValue? c.toLower =
    hexValue? c ∧ c.toLower ≠ '_' ∧ c.toLower ≠ 'x' ∧ isSpace c.toLower = false) hascii
      (toNat_of_isHexDigit h) h

theorem isHexDigit_of_isDigit {c : Char} (h : c.isDigit = true) : isHexDigit c = true := by
  unfold isHexDigit hexValue?
  rw [if_pos (toNat_of_isDigit h)]
  rfl

theorem hexValue?_toLower (c : Char) : hexValue? c.toLower = hexValue? c := by
  by_cases hc : c.toNat < 128
  · have hascii : ∀ n < 128, hexValue? (Char.ofNat n).toLower = hexValue? (Char.ofNat n) := by
      decide +kernel
    exact forall_ascii (P := fun c => hexValue? c.toLower = hexValue? c) hascii hc
  · -- Only capital letters of ASCII change.
    have hsame : c.toLower = c := by
      unfold Char.toLower
      rw [dif_neg]
      rintro ⟨-, h⟩
      have hle : c.toNat ≤ 90 := h
      omega
    rw [hsame]

/-- The values of digits, put in lower case. -/
theorem digitValues?_map_toLower {ds : List Char} (hne : ds ≠ [])
    (hds : ∀ c ∈ ds, isHexDigit c = true) :
    digitValues? hexNumeralValue? (ds.map Char.toLower) = some (ds.filterMap hexValue?) := by
  have hlower : ∀ c ∈ ds, hexNumeralValue? c.toLower = hexValue? c :=
    fun c hc => (toLower_of_isHexDigit (hds c hc)).1
  have hvalues : ∀ c ∈ ds.map Char.toLower, (hexNumeralValue? c).isSome = true ∧ c ≠ '_' := by
    refine List.forall_mem_map.2 fun c hc => ?_
    rw [hlower c hc]
    exact ⟨hds c hc, (toLower_of_isHexDigit (hds c hc)).2.1⟩
  rw [digitValues?_of_forall (fun h => hne (List.map_eq_nil_iff.1 h)) hvalues, List.filterMap_map]
  exact congrArg some (List.filterMap_congr hlower)

/-- A text without an underscore in front. -/
def afterUnderscore : List Char → List Char
  | '_' :: cs => cs
  | cs => cs

theorem afterUnderscore_of_ne {c : Char} (h : c ≠ '_') (cs : List Char) :
    afterUnderscore (c :: cs) = c :: cs := by
  unfold afterUnderscore
  split
  · rename_i heq
    exact (h (List.cons.inj heq).1).elim
  · rfl

/-- The number behind a mark. -/
theorem hexadecimal?_of_mark {s : String} {m : Char} {cs : List Char}
    (ht : IsTight isSpace s.toList) (hs : s.toList = '0' :: m :: cs) (hm : m = 'x' ∨ m = 'X') :
    hexadecimal? s = (digitValues? hexNumeralValue? (afterUnderscore cs)).map
      fun ds => (ofDigits 16 ds : Int) := by
  have hsign : takeSign ('0' :: m :: cs) = (false, '0' :: m :: cs) := rfl
  have hdrop : dropHexMark ('0' :: m :: cs) = afterUnderscore cs := by
    rw [dropHexMark.eq_def]
    exact if_pos hm
  unfold hexadecimal?
  rw [trim_eq_self ht, hs, hsign]
  dsimp only
  rw [hdrop]
  cases digitValues? hexNumeralValue? (afterUnderscore cs) <;> rfl

/-- Digits behind a mark, in lower case, stand for their number. -/
theorem hexadecimal?_marked {s : String} {ds : List Char} (hne : ds ≠ [])
    (hds : ∀ c ∈ ds, isHexDigit c = true) (hs : s.toList = '0' :: 'x' :: ds.map Char.toLower) :
    hexadecimal? s = some (ofDigits 16 (ds.filterMap hexValue?) : Int) := by
  have hspace : ∀ c ∈ s.toList, isSpace c = false := by
    rw [hs]
    refine List.forall_mem_cons.2 ⟨by decide, List.forall_mem_cons.2 ⟨by decide, ?_⟩⟩
    exact List.forall_mem_map.2 fun c hc => (toLower_of_isHexDigit (hds c hc)).2.2.2
  have hafter : afterUnderscore (ds.map Char.toLower) = ds.map Char.toLower := by
    obtain ⟨d, ds, rfl⟩ := List.exists_cons_of_ne_nil hne
    exact afterUnderscore_of_ne (toLower_of_isHexDigit (hds d List.mem_cons_self)).2.1 _
  rw [hexadecimal?_of_mark (isTight_of_forall hspace) hs (.inl rfl), hafter,
    digitValues?_map_toLower hne hds]
  rfl

/-! ## Written numbers -/

theorem digitChar_hex {n : Nat} (h : n < 16) :
    hexValue? n.digitChar = some n ∧ n.digitChar.toLower = n.digitChar := by
  have hdigits : ∀ k < 16, hexValue? k.digitChar = some k ∧ k.digitChar.toLower = k.digitChar := by
    decide
  exact hdigits n h

theorem isHexDigit_digitChar {n : Nat} (h : n < 16) : isHexDigit n.digitChar = true :=
  isHexDigit_of_hexValue? (digitChar_hex h).1

/-- A number is written with digits in lower case. -/
theorem of_mem_toDigits {n : Nat} {c : Char} (h : c ∈ Nat.toDigits 16 n) :
    isHexDigit c = true ∧ c.toLower = c := by
  have hdigit : ∀ {k : Nat}, k < 16 → isHexDigit k.digitChar = true ∧ k.digitChar.toLower =
      k.digitChar := fun hk => ⟨isHexDigit_digitChar hk, (digitChar_hex hk).2⟩
  induction n using Nat.strongRecOn with
  | ind n ih =>
    by_cases hn : n < 16
    · rw [Nat.toDigits_of_lt_base hn, List.mem_singleton] at h
      rw [h]
      exact hdigit hn
    · rw [Nat.toDigits_of_base_le (by decide) (by omega), List.mem_append,
        List.mem_singleton] at h
      rcases h with h | h
      · exact ih (n / 16) (by omega) h
      · rw [h]
        exact hdigit (Nat.mod_lt _ (by decide))

/-- The digits that a number is written with stand for it. -/
theorem ofDigits_toDigits_hex (n : Nat) :
    ofDigits 16 ((Nat.toDigits 16 n).filterMap hexValue?) = n := by
  induction n using Nat.strongRecOn with
  | ind n ih =>
    by_cases hn : n < 16
    · rw [Nat.toDigits_of_lt_base hn, List.filterMap_cons_some (digitChar_hex hn).1]
      exact Nat.zero_add n
    · have hlast := (digitChar_hex (Nat.mod_lt n (by decide : 0 < 16))).1
      rw [Nat.toDigits_of_base_le (by decide) (by omega), List.filterMap_append,
        List.filterMap_cons_some hlast, List.filterMap_nil, ofDigits, List.foldl_append]
      show ofDigits 16 ((Nat.toDigits 16 (n / 16)).filterMap hexValue?) * 16 + n % 16 = n
      rw [ih (n / 16) (by omega)]
      omega

/-- A number behind its mark is read back. -/
theorem hexadecimal?_hexDigits (n : Nat) : hexadecimal? ("0x" ++ hexDigits n) = some (n : Int) := by
  have hlower : (Nat.toDigits 16 n).map Char.toLower = Nat.toDigits 16 n :=
    (List.map_congr_left fun c hc => (of_mem_toDigits hc).2).trans (List.map_id' _)
  have hs : ("0x" ++ hexDigits n).toList = '0' :: 'x' :: (Nat.toDigits 16 n).map Char.toLower := by
    have hdigits : (hexDigits n).toList = Nat.toDigits 16 n := String.toList_ofList
    rw [String.toList_append, hdigits, hlower]
    rfl
  rw [hexadecimal?_marked Nat.toDigits_ne_nil (fun c hc => (of_mem_toDigits hc).1) hs,
    ofDigits_toDigits_hex]

/-- Two numbers are not written alike. -/
theorem eq_of_hexDigits_eq {m n : Nat} (h : "0x" ++ hexDigits m = "0x" ++ hexDigits n) : m = n := by
  have hread := congrArg hexadecimal? h
  rw [hexadecimal?_hexDigits, hexadecimal?_hexDigits] at hread
  exact Int.ofNat_inj.1 (Option.some.inj hread)

/-! ## Bytes -/

namespace Hex

theorem isAsciiBlank_of_isHexDigit {c : Char} (h : isHexDigit c = true) :
    isAsciiBlank c = false := by
  have hascii : ∀ n < 128,
      isHexDigit (Char.ofNat n) = true → isAsciiBlank (Char.ofNat n) = false := by
    decide +kernel
  exact forall_ascii (P := fun c => isHexDigit c = true → isAsciiBlank c = false) hascii
    (toNat_of_isHexDigit h) h

/-- Bytes are read from their digits in either letter case. -/
theorem decode?_of_toLower {ds : List Char} {bs : Bytes}
    (h : ds.map Char.toLower = encodeChars bs) : decode? ds = some bs := by
  induction bs generalizing ds with
  | nil =>
    obtain rfl : ds = [] := List.map_eq_nil_iff.1 h
    rfl
  | cons b bs ih =>
    have hdigits : encodeChars (b :: bs) =
        digit (b.toNat / 16) :: digit b.toNat :: encodeChars bs := rfl
    rw [hdigits] at h
    obtain ⟨c, ds, rfl, hc, h⟩ := List.map_eq_cons_iff.1 h
    obtain ⟨d, ds, rfl, hd, h⟩ := List.map_eq_cons_iff.1 h
    have hhigh : hexValue? c = some (b.toNat / 16 % 16) := by
      rw [← hexValue?_toLower, hc, hexValue?_digit]
    have hlow : hexValue? d = some (b.toNat % 16) := by
      rw [← hexValue?_toLower, hd, hexValue?_digit]
    have hblank : isAsciiBlank c = false :=
      isAsciiBlank_of_isHexDigit (isHexDigit_of_hexValue? hhigh)
    have hbyte : 16 * (b.toNat / 16 % 16) + b.toNat % 16 = b.toNat := by
      have hb := b.toNat_lt
      omega
    rw [decode?, hblank, if_neg Bool.false_ne_true, hhigh, hlow, ih h]
    dsimp only
    rw [hbyte, UInt8.ofNat_toNat]

/-- What is written as the digits of bytes is made of digits, in either letter case. -/
theorem isHexDigit_of_toLower {ds : List Char} {bs : Bytes}
    (h : ds.map Char.toLower = encodeChars bs) : ∀ c ∈ ds, isHexDigit c = true := by
  intro c hc
  have hlower : c.toLower ∈ encodeChars bs := h ▸ List.mem_map_of_mem hc
  have hvalue := isHexDigit_of_mem_encodeChars hlower
  unfold isHexDigit at hvalue
  rwa [hexValue?_toLower] at hvalue

/-- Blanks around digits behind a mark are trimmed away. -/
theorem trim_of_isPadded {mark : Char} {ds : List Char} {s : String}
    (hmark : mark = 'x' ∨ mark = 'X') (hds : ∀ c ∈ ds, isHexDigit c = true)
    (hs : IsPadded ('0' :: mark :: ds) s) : trim isBlank s.toList = '0' :: mark :: ds := by
  have hmarkBlank : isBlank mark = false := by
    rcases hmark with rfl | rfl <;> decide
  have hblank : ∀ c ∈ '0' :: mark :: ds, isBlank c = false :=
    List.forall_mem_cons.2 ⟨by decide, List.forall_mem_cons.2
      ⟨hmarkBlank, fun c hc => isBlank_of_isHexDigit (hds c hc)⟩⟩
  exact hs.trim_eq (isTight_of_forall hblank)

/-- Each byte takes two characters at least. -/
theorem length_le_of_decode? {cs : List Char} {bs : Bytes} (h : decode? cs = some bs) :
    2 * bs.length ≤ cs.length := by
  induction cs using decode?.induct generalizing bs with
  | case1 =>
    cases h
    exact Nat.le_refl _
  | case2 c hc =>
    rw [decode?, if_pos hc] at h
    cases h
    exact Nat.zero_le _
  | case3 c hc =>
    rw [decode?, if_neg hc] at h
    cases h
  | case4 c d cs hc ih =>
    rw [decode?, if_pos hc] at h
    exact Nat.le_succ_of_le (ih h)
  | case5 c d cs hc high low tail htail hlow hhigh ih =>
    rw [decode?, if_neg hc, hhigh, hlow, htail] at h
    cases h
    have hle := ih htail
    simp only [List.length_cons]
    omega
  | case6 c d cs hc hnone ih =>
    rw [decode?, if_neg hc] at h
    split at h
    · rename_i hhigh hlow htail
      exact (hnone _ _ _ hhigh hlow htail).elim
    · cases h

end Hex

/-! ## The size of a number -/

theorem foldl_lt {base : Nat} {ds : List Nat} (h : ∀ d ∈ ds, d < base) (n : Nat) :
    ds.foldl (fun n d => n * base + d) n < (n + 1) * Nat.pow base ds.length := by
  induction ds generalizing n with
  | nil => exact Nat.lt_of_lt_of_eq (Nat.lt_succ_self n) (Nat.mul_one _).symm
  | cons d ds ih =>
    obtain ⟨hd, hds⟩ := List.forall_mem_cons.1 h
    have hstep : n * base + d + 1 ≤ (n + 1) * base := by
      rw [Nat.add_mul, Nat.one_mul]
      omega
    have hpow : (n + 1) * Nat.pow base (ds.length + 1) =
        (n + 1) * base * Nat.pow base ds.length := by
      rw [Nat.mul_assoc, Nat.mul_comm base]
      rfl
    rw [List.foldl_cons, List.length_cons, hpow]
    exact Nat.lt_of_lt_of_le (ih hds _) (Nat.mul_le_mul_right _ hstep)

theorem ofDigits_lt {base : Nat} {ds : List Nat} (h : ∀ d ∈ ds, d < base) :
    ofDigits base ds < Nat.pow base ds.length := by
  have hlt := foldl_lt h 0
  rw [Nat.zero_add, Nat.one_mul] at hlt
  exact hlt

end Signatory.Text
