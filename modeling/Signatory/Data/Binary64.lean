import Signatory.Text.Numeral

/-!
# Binary floating-point numbers

Numbers of the 64-bit binary format as exact values, without machine arithmetic.

1. `ofDecimal` rounds a decimal to the nearest number, ties to even.
2. `toInt?` gives the integer that a number is.
3. `text` writes the fewest digits that read back as the number, positionally for
   decimal exponents from -4 to 15.
-/

namespace Signatory

/-- A number of the binary format: `mantissa * 2 ^ exponent`, an infinity, or no number.
A finite number has a mantissa below `2 ^ 53` and the least exponent from -1074 on that
keeps it an integer of 53 bits. -/
inductive Binary64 where
  | nan
  | infinite (negative : Bool)
  | finite (negative : Bool) (mantissa : Nat) (exponent : Int)
  deriving DecidableEq, Inhabited

namespace Binary64

/-- A positive integer times a power of two, as numerator and denominator. -/
def scale (n : Nat) (e : Int) : Nat × Nat :=
  (n <<< e.toNat, 1 <<< (-e).toNat)

/-- The quotient to the nearest integer, ties to even. -/
def roundDiv (num den : Nat) : Nat :=
  let q := num / den
  let twice := 2 * (num % den)
  if twice > den ∨ (twice = den ∧ q % 2 = 1) then q + 1 else q

/-- The nearest number to a positive quotient. -/
def ofQuotient (negative : Bool) (num den : Nat) : Binary64 :=
  let guess : Int := (num.log2 : Int) - den.log2 - 52
  let fits (e : Int) : Bool := num <<< (-e).toNat < den <<< (e.toNat + 53)
  let e := max (if fits (guess - 1) then guess - 1 else if fits guess then guess else guess + 1)
    (-1074)
  let m := roundDiv (num <<< (-e).toNat) (den <<< e.toNat)
  let (m, e) := if m = 1 <<< 53 then (1 <<< 52, e + 1) else (m, e)
  if e > 971 then .infinite negative else .finite negative m e

/-- The nearest number to `digits * 10 ^ exponent`. -/
def ofDecimal (negative : Bool) (digits : Nat) (exponent : Int) : Binary64 :=
  let magnitude := exponent + (Nat.toDigits 10 digits).length
  if digits = 0 ∨ magnitude < -400 then .finite negative 0 (-1074)
  else if magnitude > 400 then .infinite negative
  else ofQuotient negative (digits * Nat.pow 10 exponent.toNat)
    (Nat.pow 10 (-exponent).toNat)

def isZero : Binary64 → Bool
  | .finite _ m _ => m == 0
  | _ => false

/-- The integer that a number is, if it has no fraction. -/
def toInt? : Binary64 → Option Int
  | .finite negative m e =>
    let (num, den) := scale m e
    if num % den = 0 then some (Text.withSign negative (num / den)) else none
  | _ => none

/-! ## Shortest text -/

/-- Whether `n * 10 ^ e` is read back as the number `m * 2 ^ q`. -/
def readsBack (m : Nat) (q : Int) (n : Nat) (e : Int) : Bool :=
  let below : Nat := if m = 1 <<< 52 ∧ q > -1074 then 1 else 2
  -- all sides times four and times the denominators
  let x := (4 * n * Nat.pow 10 e.toNat) <<< (-q).toNat
  let unit := Nat.pow 10 (-e).toNat <<< q.toNat
  let low := (4 * m - below) * unit
  let high := (4 * m + 2) * unit
  if m % 2 = 0 then low ≤ x && x ≤ high else low < x && x < high

/-- The grid point below a quotient or the one above, whichever is read back and nearer. -/
def pick (m : Nat) (q : Int) (e : Int) : Option Nat :=
  let num := m * Nat.pow 10 (-e).toNat <<< q.toNat
  let den := Nat.pow 10 e.toNat <<< (-q).toNat
  let low := num / den
  let near := roundDiv num den
  let far := if near = low then low + 1 else low
  if readsBack m q near e then some near
  else if readsBack m q far e then some far
  else none

/-- The first grid with a point that reads back, from one digit on; `top` is the decimal
exponent of the leading digit. -/
def shortestFrom (m : Nat) (q top : Int) : (tries : Nat) → (count : Nat) → Nat × Int
  | 0, _ => (m, q)
  | n + 1, count =>
    let e := top - count + 1
    match pick m q e with
    | some d => (d, e)
    | none => shortestFrom m q top n (count + 1)

/-- The decimal exponent of the leading digit of a positive number. -/
def leadingExponent (m : Nat) (q : Int) : Int :=
  let (num, den) := scale m q
  if den ≤ num then ((Nat.toDigits 10 (num / den)).length : Int) - 1
  else
    let shifted := num * Nat.pow 10 400 / den
    ((Nat.toDigits 10 shifted).length : Int) - 401

/-- Digits with a point after the first `places` of them, zeros filled in. -/
def positional (ds : List Char) (places : Int) : List Char :=
  if places ≤ 0 then '0' :: '.' :: (List.replicate (-places).toNat '0' ++ ds)
  else
    let whole := places.toNat
    let fraction := ds.drop whole
    ds.take whole ++ List.replicate (whole - ds.length) '0' ++
      '.' :: (if fraction = [] then ['0'] else fraction)

/-- Digits with an exponent of at least two digits. -/
def scientific (ds : List Char) (exponent : Int) : List Char :=
  let fraction := match ds.tail with
    | [] => []
    | rest => '.' :: rest
  let power := (Nat.toDigits 10 exponent.natAbs)
  ds.take 1 ++ fraction ++ 'e' :: (if exponent < 0 then '-' else '+') ::
    (if power.length < 2 then '0' :: power else power)

/-- The text of a number. -/
def text : Binary64 → String
  | .nan => "nan"
  | .infinite negative => if negative then "-inf" else "inf"
  | .finite negative m q =>
    let body :=
      if m = 0 then ['0', '.', '0']
      else
        let (d, e) := shortestFrom m q (leadingExponent m q) 18 1
        let ds := (Nat.toDigits 10 d)
        let places := e + ds.length
        let ds := Text.trimEnd (· == '0') ds
        if -4 < places ∧ places ≤ 16 then positional ds places
        else scientific ds (places - 1)
    String.ofList (if negative then '-' :: body else body)

end Binary64

end Signatory
