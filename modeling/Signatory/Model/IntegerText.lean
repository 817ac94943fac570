import Signatory.Model.Issue
import Signatory.Text.Blank
import Signatory.Text.Numeral

/-!
# Integers given as text

The integer that a text of a request stands for. A text is read as a strict numeral, and
if it is none, once more without the liberties that a numeral may take.

1. `strict` reads a strict numeral: a zero, or digits without a leading zero, behind an
   optional minus sign. Only here a numeral can be refused for its length.
2. `plain?` takes the liberties away: blanks around the numeral, a plus sign, leading
   zeros, a fraction of zeros, and single underscores between digits.
3. `read` joins the two.
-/

namespace Signatory.IntegerText

/-- The integer of a strict numeral. A numeral that is too long is refused as such even if
other characters follow it. -/
def strict (cs : List Char) : Except Issue.Kind Int :=
  let (negative, cs) :=
    match cs with
    | '-' :: cs => (true, cs)
    | cs => (false, cs)
  match Text.strictDigits? cs with
  | none => .error .integerText
  | some (ds, rest) =>
    if Text.exceedsLength negative ds then .error .integerSize
    else if rest.isEmpty then .ok (Text.withSign negative (Text.digitsValue ds))
    else .error .integerText

/-- The rest of a numeral after its leading zeros and the underscores among them; `last` is
the last character that was passed. It is kept if nothing or a point follows. A minus sign
may follow the zeros. -/
def afterZeros? (last : Char) : List Char → Option (List Char)
  | [] => some [last]
  | c :: cs =>
    if c = '0' ∨ c = '_' then afterZeros? c cs
    else if c.isDigit ∨ c = '-' then some (c :: cs)
    else if c = '.' then some (last :: c :: cs)
    else none

/-- A numeral, which starts with a digit, without its leading zeros. -/
def dropZeros? : List Char → Option (List Char)
  | [] => none
  | c :: cs =>
    if c = '0' then afterZeros? c cs
    else if c.isDigit then some (c :: cs)
    else none

/-- A numeral without a fraction of at least one zero and no other digit. -/
def dropFraction (cs : List Char) : List Char :=
  match cs.span (· ≠ '.') with
  | (whole, '.' :: fraction) =>
    if fraction.isEmpty ∨ fraction.any (· ≠ '0') then cs else whole
  | _ => cs

/-- A numeral without the underscores between its characters. -/
def joined? (cs : List Char) : Option (List Char) :=
  let parts := cs.splitOn '_'
  if parts.any (·.isEmpty) then none else some parts.flatten

/-- A lenient numeral in its strict form; it need not be one if the text is no numeral. -/
def plain? (cs : List Char) : Option (List Char) := do
  let (negative, cs) := Text.takeSign (Text.trim Text.isSpace cs)
  let ds ← joined? (dropFraction (← dropZeros? cs))
  some (if negative then '-' :: ds else ds)

/-- The integer of a text. -/
def read (s : String) : Except Issue.Kind Int :=
  match strict s.toList with
  | .error .integerText =>
    match (plain? s.toList).map strict with
    | some (.ok n) => .ok n
    | _ => .error .integerText
  | r => r

end Signatory.IntegerText
