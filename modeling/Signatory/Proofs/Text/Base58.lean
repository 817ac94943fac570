import Mathlib.Data.Nat.Digits.Lemmas
import Signatory.Proofs.Bytes
import Signatory.Proofs.Text.Numeral
import Signatory.Text.Base58

/-!
# Bytes through base 58

`StandsFor` says what a text in base 58 means, without a way to compute it: its digits stand for the
number of the bytes, and as many digits of value zero are in front as zero bytes.

1. `decode?_eq_some_iff`: a text is read as the bytes that it stands for.
2. `standsFor_iff`: the text that bytes are written as stands for them, and no other text does.
3. `hasHexMark_of_forall_mem`: no text in base 58 carries a mark.
-/

namespace Signatory.Text

/-! ## What stands in front -/

/-- Every list is taken apart into its front and a rest that starts with something else. -/
theorem exists_front {α : Type} (a : α) (as : List α) :
    ∃ k rest, as = List.replicate k a ++ rest ∧ rest.head? ≠ some a := by
  induction as with
  | nil => exact ⟨0, [], rfl, fun h => by cases h⟩
  | cons b as ih =>
    by_cases hb : b = a
    · obtain ⟨k, rest, has, hrest⟩ := ih
      exact ⟨k + 1, rest, by rw [hb, has]; rfl, hrest⟩
    · refine ⟨0, b :: as, rfl, ?_⟩
      rw [List.head?_cons, ne_eq, Option.some.injEq]
      exact hb

section Front

variable {α : Type} [BEq α] [LawfulBEq α] {a : α}

/-- How often a value stands at the front of a list. -/
def countFront (a : α) (as : List α) : Nat :=
  (as.takeWhile (· == a)).length

theorem countFront_replicate_append {as : List α} (h : as.head? ≠ some a) (k : Nat) :
    countFront a (List.replicate k a ++ as) = k := by
  have hrest : as.takeWhile (· == a) = [] := by
    cases as with
    | nil => rfl
    | cons b as =>
      rw [List.head?_cons, ne_eq, Option.some.injEq] at h
      rw [List.takeWhile_cons_of_neg (by rwa [beq_iff_eq])]
  have hfront : ∀ b ∈ List.replicate k a, (b == a) = true := fun b hb =>
    beq_iff_eq.2 (List.eq_of_mem_replicate hb)
  unfold countFront
  rw [List.takeWhile_append_of_pos hfront, hrest, List.append_nil, List.length_replicate]

/-- The front stays as long when no other value becomes that of the front. -/
theorem countFront_map {β : Type} [BEq β] [LawfulBEq β] {f : α → β} {as : List α}
    (h : ∀ b ∈ as, f b = f a → b = a) : countFront (f a) (as.map f) = countFront a as := by
  obtain ⟨k, rest, rfl, hrest⟩ := exists_front a as
  have hmap : (rest.map f).head? ≠ some (f a) := by
    cases rest with
    | nil => exact fun h => by cases h
    | cons b rest =>
      rw [List.map_cons, List.head?_cons, ne_eq, Option.some.injEq]
      intro hb
      exact hrest (congrArg some (h b (List.mem_append_right _ List.mem_cons_self) hb))
  rw [List.map_append, List.map_replicate, countFront_replicate_append hmap,
    countFront_replicate_append hrest]

end Front

/-- The shortest form of a number with zeros in front, told by the zeros and the number. -/
theorem zeros_append_minimal_eq_iff {k n : Nat} {bs : Bytes} :
    List.replicate k 0 ++ Bytes.minimal n = bs ↔ k = countFront 0 bs ∧ n = Bytes.beNat bs := by
  constructor
  · rintro rfl
    rw [countFront_replicate_append (Bytes.head?_minimal n), Bytes.beNat_zeros_append,
      Bytes.beNat_minimal]
    exact ⟨rfl, rfl⟩
  · rintro ⟨rfl, rfl⟩
    obtain ⟨k, rest, rfl, hrest⟩ := exists_front 0 bs
    rw [countFront_replicate_append hrest, Bytes.beNat_zeros_append, Bytes.minimal_beNat hrest]

namespace Base58

/-! ## Digits -/

theorem value?_digit {n : Nat} (h : n < 58) : value? (digit n) = some n := by
  have hdigits : ∀ k < 58, value? (digit k) = some k := by decide
  exact hdigits n h

theorem digit_of_value? {c : Char} {v : Nat} (h : value? c = some v) : v < 58 ∧ digit v = c := by
  obtain ⟨hv, hc, -⟩ := List.idxOf?_eq_some_iff.1 h
  refine ⟨hv, ?_⟩
  unfold digit
  rw [List.getD_eq_getElem?_getD, List.getElem?_eq_getElem hv, hc]
  rfl

/-- Values are read from digits and from nothing else. -/
theorem mapM_value?_eq_some_iff {cs : List Char} {ds : List Nat} :
    cs.mapM value? = some ds ↔ (∀ d ∈ ds, d < 58) ∧ ds.map digit = cs := by
  induction cs generalizing ds with
  | nil =>
    rw [List.mapM_nil, List.map_eq_nil_iff]
    constructor
    · rintro ⟨⟩
      exact ⟨List.forall_mem_nil _, rfl⟩
    · rintro ⟨-, rfl⟩
      rfl
  | cons c cs ih =>
    rw [List.mapM_cons]
    constructor
    · intro h
      obtain ⟨d, hd, h⟩ := Option.bind_eq_some_iff.1 h
      obtain ⟨ds', hds, h⟩ := Option.bind_eq_some_iff.1 h
      obtain rfl := Option.some.inj h
      obtain ⟨hlt, rfl⟩ := digit_of_value? hd
      obtain ⟨hall, rfl⟩ := ih.1 hds
      exact ⟨List.forall_mem_cons.2 ⟨hlt, hall⟩, rfl⟩
    · rintro ⟨hall, h⟩
      obtain ⟨d, ds', rfl, rfl, rfl⟩ := List.map_eq_cons_iff.1 h
      obtain ⟨hd, hds⟩ := List.forall_mem_cons.1 hall
      rw [value?_digit hd, ih.2 ⟨hds, rfl⟩]
      rfl

theorem countFront_map_digit {ds : List Nat} (h : ∀ d ∈ ds, d < 58) :
    countFront '1' (ds.map digit) = countFront 0 ds := by
  have hone : '1' = digit 0 := by decide
  rw [hone]
  refine countFront_map fun d hd hdigit => ?_
  have hread := congrArg value? hdigit
  rw [value?_digit (h d hd), value?_digit (by decide)] at hread
  exact Option.some.inj hread

theorem forall_digit {P : Char → Prop} (hP : ∀ c ∈ alphabet, P c) {ds : List Nat}
    (h : ∀ d ∈ ds, d < 58) : ∀ c ∈ ds.map digit, P c := by
  have hmem : ∀ k < 58, digit k ∈ alphabet := by decide
  exact List.forall_mem_map.2 fun d hd => hP _ (hmem d (h d hd))

/-! ## Numbers -/

theorem digitsOf_eq (n : Nat) : digitsOf n = (Nat.digits 58 n).map digit := by
  induction n using Nat.strongRecOn with
  | ind n ih =>
    rw [digitsOf]
    split
    · rename_i hn
      rw [hn, Nat.digits_zero]
      rfl
    · rename_i hn
      have hpos : 0 < n := Nat.pos_of_ne_zero hn
      rw [Nat.digits_def' (by decide) hpos, List.map_cons, ih (n / 58) (by omega)]

/-- A number has no zero in front of its digits. -/
theorem head?_digits (n : Nat) : (Nat.digits 58 n).reverse.head? ≠ some 0 := by
  rw [List.head?_reverse]
  by_cases hn : n = 0
  · rw [hn, Nat.digits_zero]
    exact fun h => by cases h
  · rw [List.getLast?_eq_some_getLast (Nat.digits_ne_nil_iff_ne_zero.2 hn), ne_eq, Option.some.injEq]
    exact Nat.getLast_digit_ne_zero 58 hn

/-- The digits of a number with zeros in front, told by the zeros and the number. -/
theorem zeros_append_digits_eq_iff {k n : Nat} {ds : List Nat} :
    List.replicate k 0 ++ (Nat.digits 58 n).reverse = ds ↔
      k = countFront 0 ds ∧ n = ofDigits 58 ds ∧ ∀ d ∈ ds, d < 58 := by
  have hvalue : ∀ k (ds : List Nat),
      ofDigits 58 (List.replicate k 0 ++ ds) = Nat.ofDigits 58 ds.reverse := by
    intro k ds
    rw [ofDigits_eq, List.reverse_append, List.reverse_replicate,
      Nat.ofDigits_append_replicate_zero]
  constructor
  · rintro rfl
    refine ⟨(countFront_replicate_append (head?_digits n) k).symm, ?_, fun d hd => ?_⟩
    · rw [hvalue, List.reverse_reverse, Nat.ofDigits_digits]
    · rcases List.mem_append.1 hd with hzero | hdigit
      · rw [List.eq_of_mem_replicate hzero]
        decide
      · exact Nat.digits_lt_base (by decide) (List.mem_reverse.1 hdigit)
  · rintro ⟨rfl, rfl, hlt⟩
    obtain ⟨k, rest, rfl, hrest⟩ := exists_front 0 ds
    have hdigits : Nat.digits 58 (Nat.ofDigits 58 rest.reverse) = rest.reverse := by
      refine Nat.digits_ofDigits 58 (by decide) _ (fun d hd => ?_) fun hne hlast => ?_
      · exact hlt d (List.mem_append_right _ (List.mem_reverse.1 hd))
      · rw [List.getLast_reverse] at hlast
        exact hrest ((List.head?_eq_some_head _).trans (congrArg some hlast))
    rw [countFront_replicate_append hrest, hvalue, hdigits, List.reverse_reverse]

/-! ## What a text stands for -/

/-- The text is written in the digits of base 58, stands for the number of the bytes, and has as
many zeros in front as they have. -/
def StandsFor (cs : List Char) (bs : Bytes) : Prop :=
  ∃ ds : List Nat, (∀ d ∈ ds, d < 58) ∧ ds.map digit = cs ∧
    countFront 0 ds = countFront 0 bs ∧ ofDigits 58 ds = Bytes.beNat bs

variable {cs : List Char} {bs : Bytes}

theorem StandsFor.mem_alphabet (h : StandsFor cs bs) : ∀ c ∈ cs, c ∈ alphabet := by
  obtain ⟨ds, hds, rfl, -⟩ := h
  exact forall_digit (fun _ hc => hc) hds

/-- A text is read as the bytes that it stands for. -/
theorem decode?_eq_some_iff (htrim : trimEnd isAsciiBlank cs = cs) :
    decode? cs = some bs ↔ StandsFor cs bs := by
  have hvalues : ∀ {ds : List Nat}, (∀ d ∈ ds, d < 58) → ds.map digit = cs →
      (some (List.replicate (countFront '1' cs) 0 ++ Bytes.minimal (ofDigits 58 ds)) = some bs ↔
        countFront 0 ds = countFront 0 bs ∧ ofDigits 58 ds = Bytes.beNat bs) := by
    rintro ds hds rfl
    rw [Option.some.injEq, zeros_append_minimal_eq_iff, countFront_map_digit hds]
  unfold decode?
  rw [htrim]
  constructor
  · intro h
    obtain ⟨ds, hread, h⟩ := Option.bind_eq_some_iff.1 h
    obtain ⟨hds, hcs⟩ := mapM_value?_eq_some_iff.1 hread
    exact ⟨ds, hds, hcs, (hvalues hds hcs).1 h⟩
  · rintro ⟨ds, hds, hcs, h⟩
    exact Option.bind_eq_some_iff.2
      ⟨ds, mapM_value?_eq_some_iff.2 ⟨hds, hcs⟩, (hvalues hds hcs).2 h⟩

theorem toList_encode (bs : Bytes) : (encode bs).toList =
    (List.replicate (countFront 0 bs) 0 ++ (Nat.digits 58 (Bytes.beNat bs)).reverse).map digit := by
  unfold encode
  rw [String.toList_ofList, digitsOf_eq, List.map_append, List.map_replicate, List.map_reverse]
  rfl

/-- The text that bytes are written as stands for them, and no other text does. -/
theorem standsFor_iff : StandsFor cs bs ↔ (encode bs).toList = cs := by
  rw [toList_encode]
  constructor
  · rintro ⟨ds, hds, rfl, hfront, hvalue⟩
    rw [zeros_append_digits_eq_iff.2 ⟨hfront.symm, hvalue.symm, hds⟩]
  · rintro rfl
    obtain ⟨hfront, hvalue, hds⟩ := zeros_append_digits_eq_iff.1 rfl
    exact ⟨_, hds, rfl, hfront.symm, hvalue.symm⟩

/-- As many ones stand in front of the text as zero bytes in front of the bytes. -/
theorem StandsFor.countFront_eq (h : StandsFor cs bs) : countFront '1' cs = countFront 0 bs := by
  obtain ⟨ds, hds, rfl, hfront, -⟩ := h
  rw [countFront_map_digit hds, hfront]

/-! ## Texts over the alphabet -/

theorem isBlank_of_mem {c : Char} (h : c ∈ alphabet) : isBlank c = false ∧ isAsciiBlank c = false := by
  have hall : (alphabet.all fun c => !isBlank c && !isAsciiBlank c) = true := by decide +kernel
  have hc := List.all_eq_true.1 hall c h
  rwa [Bool.and_eq_true, Bool.not_eq_true', Bool.not_eq_true'] at hc

/-- No text in base 58 has a blank at its ends. -/
theorem isTight_of_forall_mem (h : ∀ c ∈ cs, c ∈ alphabet) : IsTight isBlank cs :=
  isTight_of_forall fun c hc => (isBlank_of_mem (h c hc)).1

theorem trimEnd_of_forall_mem (h : ∀ c ∈ cs, c ∈ alphabet) : trimEnd isAsciiBlank cs = cs := by
  have htight : IsTight isAsciiBlank cs :=
    isTight_of_forall fun c hc => (isBlank_of_mem (h c hc)).2
  unfold trimEnd
  rw [dropWhile_eq_self (by rw [List.head?_reverse]; exact htight.2), List.reverse_reverse]

/-- No text in base 58 carries a mark: zero is none of its digits. -/
theorem hasHexMark_of_forall_mem (h : ∀ c ∈ cs, c ∈ alphabet) : hasHexMark cs = false := by
  refine hasHexMark_of_head? fun hzero => ?_
  have hnot : '0' ∉ alphabet := by decide
  exact hnot (h _ (List.mem_of_mem_head? hzero))

end Base58

end Signatory.Text
