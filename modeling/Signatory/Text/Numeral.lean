import Signatory.Text.Blank
import Signatory.Text.Digit

/-!
# Numerals

Reading and writing integers as text.

1. `decimal?` and `hexadecimal?` read a numeral in the lenient grammar of settings and
   paths: white space around it, a sign, digits of any script, single underscores between
   digits.
2. `strictDigits?` reads the digits of a numeral in the strict grammar of JSON.
3. `digits` and `hexDigits` write a number.
4. A decimal numeral of more than `digitLimit` digits is neither read nor written.
-/

namespace Signatory.Text

/-- The most decimal digits that a numeral may have. -/
def digitLimit : Nat := 4300

/-- The decimal digits of a number. -/
def digits (n : Nat) : String :=
  Nat.repr n

/-- The decimal numeral of an integer. -/
def signed (n : Int) : String :=
  match n with
  | .ofNat n => digits n
  | .negSucc n => "-" ++ digits (n + 1)

/-- Whether a number has more digits than a numeral may have. -/
def exceedsDigitLimit (n : Int) : Bool :=
  Nat.pow 10 digitLimit ≤ n.natAbs

/-- The lower-case hexadecimal digits of a number. -/
def hexDigits (n : Nat) : String :=
  String.ofList (Nat.toDigits 16 n)

/-- The values of digits with single underscores between them. -/
def digitValues? (value? : Char → Option Nat) : List Char → Option (List Nat)
  | [] => none
  | [c] => (value? c).map fun d => [d]
  | c :: '_' :: cs =>
    match value? c, digitValues? value? cs with
    | some d, some ds => some (d :: ds)
    | _, _ => none
  | c :: cs =>
    match value? c, digitValues? value? cs with
    | some d, some ds => some (d :: ds)
    | _, _ => none

/-- The number that digits stand for in a base, most significant digit first. -/
def ofDigits (base : Nat) (ds : List Nat) : Nat :=
  ds.foldl (fun n d => n * base + d) 0

/-- The number that ASCII digits stand for. -/
def digitsValue (ds : List Char) : Nat :=
  ds.foldl (fun n c => n * 10 + (c.toNat - 48)) 0

/-- The ASCII digits at the front, and the rest. A zero in front of other digits does not
count. -/
def strictDigits? (cs : List Char) : Option (List Char × List Char) :=
  match cs.span Char.isDigit with
  | ([], _) => none
  | ('0' :: _ :: _, _) => none
  | (ds, rest) => some (ds, rest)

/-- Whether a strict numeral is too long: its sign counts like a digit. -/
def exceedsLength (negative : Bool) (ds : List Char) : Bool :=
  digitLimit < ds.length + (if negative then 1 else 0)

/-- The sign in front of a numeral, and the rest. -/
def takeSign : List Char → Bool × List Char
  | '-' :: cs => (true, cs)
  | '+' :: cs => (false, cs)
  | cs => (false, cs)

def withSign (negative : Bool) (n : Nat) : Int :=
  if negative then - (n : Int) else n

/-- The integer that a decimal numeral stands for. -/
def decimal? (s : String) : Option Int := do
  let (negative, cs) := takeSign (trim isSpace s.toList)
  let ds ← digitValues? decimalValue? cs
  if digitLimit < ds.length then none else some (withSign negative (ofDigits 10 ds))

/-- A digit of a hexadecimal numeral: a decimal digit of any script, or an ASCII letter. -/
def hexNumeralValue? (c : Char) : Option Nat :=
  match decimalValue? c with
  | some d => some d
  | none => hexValue? c

/-- The digits of a hexadecimal numeral after its optional mark. -/
def dropHexMark : List Char → List Char
  | '0' :: x :: cs =>
    if x = 'x' ∨ x = 'X' then match cs with
      | '_' :: cs => cs
      | cs => cs
    else '0' :: x :: cs
  | cs => cs

/-- The integer that a hexadecimal numeral stands for; `0x` in front is optional. -/
def hexadecimal? (s : String) : Option Int := do
  let (negative, cs) := takeSign (trim isSpace s.toList)
  let ds ← digitValues? hexNumeralValue? (dropHexMark cs)
  some (withSign negative (ofDigits 16 ds))

/-- Whether a text starts with `0x` or `0X`. -/
def hasHexMark : List Char → Bool
  | '0' :: x :: _ => x = 'x' || x = 'X'
  | _ => false

end Signatory.Text
