import Mathlib.Data.List.Basic
import Mathlib.Data.Nat.Digits.Defs
import Signatory.Proofs.Text.Characters

/-!
# Numerals

1. `digitValues?_of_forall`: digits without underscores between them are read one by one.
2. `decimal?_signed`: the decimal numeral of an integer is read as the integer, unless it has more
   digits than a numeral may have.
-/

namespace Signatory.Text

/-! ## Digits -/

/-- Digits stand for a number with the most significant one first. -/
theorem ofDigits_eq (base : Nat) (vs : List Nat) :
    ofDigits base vs = Nat.ofDigits base vs.reverse := by
  rw [Nat.ofDigits_eq_foldr, List.foldr_reverse, ofDigits]
  congr 1
  funext n d
  show n * base + d = d + base * n
  rw [Nat.mul_comm, Nat.add_comm]

theorem digitValues?_of_forall {value? : Char → Option Nat} {cs : List Char} (hne : cs ≠ [])
    (hcs : ∀ c ∈ cs, (value? c).isSome = true ∧ c ≠ '_') :
    digitValues? value? cs = some (cs.filterMap value?) := by
  induction cs with
  | nil => exact absurd rfl hne
  | cons c cs ih =>
    obtain ⟨⟨hc, -⟩, hcs⟩ := List.forall_mem_cons.1 hcs
    obtain ⟨v, hv⟩ := Option.isSome_iff_exists.1 hc
    rw [List.filterMap_cons_some hv]
    cases cs with
    | nil =>
      rw [digitValues?, hv]
      rfl
    | cons d ds =>
      have hd := (hcs d List.mem_cons_self).2
      rw [digitValues?, hv, ih (List.cons_ne_nil _ _) hcs]
      · exact fun h => absurd h (List.cons_ne_nil _ _)
      · exact fun _ h => hd (List.cons.inj h).1

theorem toNat_of_isDigit {c : Char} (h : c.isDigit = true) : 48 ≤ c.toNat ∧ c.toNat ≤ 57 := by
  unfold Char.isDigit at h
  rw [Bool.and_eq_true, decide_eq_true_eq, decide_eq_true_eq] at h
  exact h

/-- A decimal digit is no sign, no underscore and no white space. -/
theorem decimalValue?_of_isDigit {c : Char} (h : c.isDigit = true) :
    decimalValue? c = some (c.toNat - 48) ∧ c ≠ '_' ∧ c ≠ '-' ∧ c ≠ '+' ∧ isSpace c = false := by
  have hascii : ∀ n < 128, (Char.ofNat n).isDigit = true →
      decimalValue? (Char.ofNat n) = some ((Char.ofNat n).toNat - 48) ∧ Char.ofNat n ≠ '_' ∧
        Char.ofNat n ≠ '-' ∧ Char.ofNat n ≠ '+' ∧ isSpace (Char.ofNat n) = false := by
    decide +kernel
  have hc : c.toNat < 128 := by
    have hn := toNat_of_isDigit h
    omega
  exact forall_ascii (P := fun c => c.isDigit = true → decimalValue? c = some (c.toNat - 48) ∧
    c ≠ '_' ∧ c ≠ '-' ∧ c ≠ '+' ∧ isSpace c = false) hascii hc h

theorem takeSign_of_isDigit {cs : List Char} (h : ∀ c ∈ cs, c.isDigit = true) :
    takeSign cs = (false, cs) := by
  unfold takeSign
  split
  · exact absurd rfl (decimalValue?_of_isDigit (h _ List.mem_cons_self)).2.2.1
  · exact absurd rfl (decimalValue?_of_isDigit (h _ List.mem_cons_self)).2.2.2.1
  · rfl

/-! ## Decimal numerals -/

theorem toList_digits (n : Nat) : (digits n).toList = Nat.toDigits 10 n := by
  unfold digits
  rw [Nat.repr_eq_ofList_toDigits, String.toList_ofList]

theorem isDigit_of_mem_toDigits {n : Nat} : ∀ c ∈ Nat.toDigits 10 n, c.isDigit = true :=
  fun _ hc => Nat.isDigit_of_mem_toDigits (by decide) (by decide) hc

theorem decimalValue?_of_mem_toDigits {n : Nat} :
    ∀ c ∈ Nat.toDigits 10 n, decimalValue? c = some (c.toNat - 48) :=
  fun c hc => (decimalValue?_of_isDigit (isDigit_of_mem_toDigits c hc)).1

theorem filterMap_toDigits (n : Nat) : (Nat.toDigits 10 n).filterMap decimalValue? =
    (Nat.toDigits 10 n).map fun c => c.toNat - 48 := by
  rw [List.filterMap_congr decimalValue?_of_mem_toDigits, List.filterMap_eq_map']

theorem digitValues?_toDigits (n : Nat) : digitValues? decimalValue? (Nat.toDigits 10 n) =
    some ((Nat.toDigits 10 n).map fun c => c.toNat - 48) := by
  rw [digitValues?_of_forall Nat.toDigits_ne_nil fun c hc =>
    ⟨Option.isSome_iff_exists.2 ⟨_, decimalValue?_of_mem_toDigits c hc⟩,
      (decimalValue?_of_isDigit (isDigit_of_mem_toDigits c hc)).2.1⟩, filterMap_toDigits]

theorem ofDigits_toDigits (n : Nat) :
    ofDigits 10 ((Nat.toDigits 10 n).map fun c => c.toNat - 48) = n := by
  have hstep : (fun (acc : Nat) (c : Char) => acc * 10 + (c.toNat - 48)) =
      fun acc c => 10 * acc + (c.toNat - '0'.toNat) := by
    funext acc c
    rw [Nat.mul_comm]
    rfl
  calc ofDigits 10 ((Nat.toDigits 10 n).map fun c => c.toNat - 48)
      = (Nat.toDigits 10 n).foldl (fun acc c => acc * 10 + (c.toNat - 48)) 0 := List.foldl_map
    _ = Nat.ofDigitChars 10 (Nat.toDigits 10 n) 0 := by rw [hstep, Nat.ofDigitChars_eq_foldl]
    _ = n := Nat.ofDigitChars_ten_toDigits

theorem length_toDigits_le {n limit : Nat} (hlimit : 0 < limit) (h : n < Nat.pow 10 limit) :
    (Nat.toDigits 10 n).length ≤ limit :=
  (Nat.length_toDigits_le_iff (by decide) hlimit).2 h

theorem length_toDigits_natAbs {n : Int} (h : exceedsDigitLimit n = false) :
    (Nat.toDigits 10 n.natAbs).length ≤ digitLimit :=
  length_toDigits_le (by decide) (Nat.lt_of_not_le (of_decide_eq_false h))

theorem decimal?_of_takeSign {s : String} {negative : Bool} {n : Nat}
    (hs : takeSign (trim isSpace s.toList) = (negative, Nat.toDigits 10 n))
    (hn : (Nat.toDigits 10 n).length ≤ digitLimit) : decimal? s = some (withSign negative n) := by
  unfold decimal?
  rw [hs]
  dsimp only
  rw [digitValues?_toDigits, Option.bind_eq_bind, Option.bind_some, List.length_map,
    if_neg (Nat.not_lt.2 hn), ofDigits_toDigits]

/-- The numeral of an integer is read as the integer. -/
theorem decimal?_signed {n : Int} (h : exceedsDigitLimit n = false) :
    decimal? (signed n) = some n := by
  have hspace : ∀ m, ∀ c ∈ Nat.toDigits 10 m, isSpace c = false :=
    fun m c hc => (decimalValue?_of_isDigit (isDigit_of_mem_toDigits c hc)).2.2.2.2
  cases n with
  | ofNat m =>
    have hlist : (signed (Int.ofNat m)).toList = Nat.toDigits 10 m := toList_digits m
    have hs : takeSign (trim isSpace (signed (Int.ofNat m)).toList) =
        (false, Nat.toDigits 10 m) := by
      rw [hlist, trim_eq_self (isTight_of_forall (hspace m)),
        takeSign_of_isDigit isDigit_of_mem_toDigits]
    exact decimal?_of_takeSign hs (length_toDigits_natAbs h)
  | negSucc m =>
    have hlist : (signed (Int.negSucc m)).toList = '-' :: Nat.toDigits 10 (m + 1) := by
      unfold signed
      rw [String.toList_append, toList_digits]
      rfl
    have hminus : isSpace '-' = false := by decide
    have hs : takeSign (trim isSpace (signed (Int.negSucc m)).toList) =
        (true, Nat.toDigits 10 (m + 1)) := by
      rw [hlist, trim_eq_self (isTight_of_forall (List.forall_mem_cons.2 ⟨hminus, hspace _⟩))]
      rfl
    exact decimal?_of_takeSign hs (length_toDigits_natAbs h)

end Signatory.Text
