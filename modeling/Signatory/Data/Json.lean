import Signatory.Data.Value

/-!
# Reading JSON

A strict reader: no comments, trailing commas, leading zeros or bare control characters.
Three words beyond the standard are read as numbers: `NaN`, `Infinity` and `-Infinity`.
A literal with a fraction or an exponent is a floating-point number, any other an integer.
The part in front of the point has at most `Text.digitLimit` characters. The last of
several fields of one name wins.
-/

namespace Signatory.Json

def isBlank (c : Char) : Bool :=
  c = ' ' || c = '\t' || c = '\n' || c = '\r'

def skip (cs : List Char) : List Char :=
  cs.dropWhile isBlank

/-- The rest after a word that must come next. -/
def expect? : List Char → List Char → Option (List Char)
  | [], cs => some cs
  | w :: ws, c :: cs => if w = c then expect? ws cs else none
  | _ :: _, [] => none

/-! ## Strings -/

/-- The number of four hexadecimal digits. -/
def hex4? : List Char → Option (Nat × List Char)
  | a :: b :: c :: d :: cs => do
    let a ← Text.hexValue? a
    let b ← Text.hexValue? b
    let c ← Text.hexValue? c
    let d ← Text.hexValue? d
    some (((a * 16 + b) * 16 + c) * 16 + d, cs)
  | _ => none

/-- The character of a `u` escape, which may be a pair of surrogates. -/
def unicodeEscape? (cs : List Char) : Option (Char × List Char) := do
  let (n, cs) ← hex4? cs
  if 0xD800 ≤ n ∧ n < 0xDC00 then
    let cs ← expect? ['\x5c', 'u'] cs
    let (m, cs) ← hex4? cs
    if 0xDC00 ≤ m ∧ m < 0xE000 then
      some (Char.ofNat (0x10000 + (n - 0xD800) * 0x400 + (m - 0xDC00)), cs)
    else none
  else if 0xDC00 ≤ n ∧ n < 0xE000 then none
  else some (Char.ofNat n, cs)

/-- The character of an escape, after its backslash. -/
def escape? : List Char → Option (Char × List Char)
  | [] => none
  | c :: cs =>
    if c = '\x22' ∨ c = '\x5c' ∨ c = '/' then some (c, cs)
    else if c = 'b' then some ('\x08', cs)
    else if c = 'f' then some ('\x0c', cs)
    else if c = 'n' then some ('\n', cs)
    else if c = 'r' then some ('\r', cs)
    else if c = 't' then some ('\t', cs)
    else if c = 'u' then unicodeEscape? cs
    else none

/-- A string after its opening quote; `acc` holds its characters so far, last first. -/
def string? : (fuel : Nat) → List Char → List Char → Option (String × List Char)
  | 0, _, _ => none
  | _ + 1, _, [] => none
  | fuel + 1, acc, c :: cs =>
    if c = '\x22' then some (String.ofList acc.reverse, cs)
    else if c = '\x5c' then
      match escape? cs with
      | some (e, cs) => string? fuel (e :: acc) cs
      | none => none
    else if c.toNat < 0x20 then none
    else string? fuel (c :: acc) cs

/-! ## Numbers -/

/-- The digits at the front, at least one, and the rest. -/
def digits? (cs : List Char) : Option (List Char × List Char) :=
  match cs.span Char.isDigit with
  | ([], _) => none
  | (ds, cs) => some (ds, cs)

/-- The digits of a fraction, if there is a point. -/
def fraction? : List Char → Option (List Char × List Char)
  | '.' :: cs => digits? cs
  | cs => some ([], cs)

/-- The exponent, if there is a mark for one. -/
def exponent? : List Char → Option (Option Int × List Char)
  | c :: cs =>
    if c = 'e' ∨ c = 'E' then
      let (negative, cs) := Text.takeSign cs
      (digits? cs).map fun (ds, cs) =>
        (some (Text.withSign negative (Text.digitsValue ds)), cs)
    else some (none, c :: cs)
  | [] => some (none, [])

/-- A number after its sign. -/
def number? (negative : Bool) (cs : List Char) : Option (Value × List Char) := do
  let (whole, afterWhole) ← Text.strictDigits? cs
  if Text.exceedsLength negative whole then none
  else
    let (fraction, afterFraction) ← fraction? afterWhole
    let (exponent, rest) ← exponent? afterFraction
    if fraction.isEmpty ∧ exponent.isNone then
      some (.int (Text.withSign negative (Text.digitsValue whole)), rest)
    else
      let e := exponent.getD 0 - (fraction.length : Int)
      some (.float (Binary64.ofDecimal negative (Text.digitsValue (whole ++ fraction)) e), rest)

/-- A value that starts with a minus sign, after it. -/
def negative? (cs : List Char) : Option (Value × List Char) :=
  match expect? "Infinity".toList cs with
  | some cs => some (.float (.infinite true), cs)
  | none => number? true cs

/-! ## Values -/

/-- A value without parts. -/
def scalar? : List Char → Option (Value × List Char)
  | [] => none
  | c :: cs =>
    if c = 'n' then (expect? "ull".toList cs).map fun cs => (.null, cs)
    else if c = 't' then (expect? "rue".toList cs).map fun cs => (.bool true, cs)
    else if c = 'f' then (expect? "alse".toList cs).map fun cs => (.bool false, cs)
    else if c = 'N' then (expect? "aN".toList cs).map fun cs => (.float .nan, cs)
    else if c = 'I' then (expect? "nfinity".toList cs).map fun cs => (.float (.infinite false), cs)
    else if c = '-' then negative? cs
    else number? false (c :: cs)

mutual

/-- A value at the front of a text. -/
def value? : (fuel : Nat) → List Char → Option (Value × List Char)
  | 0, _ => none
  | fuel + 1, cs =>
    match skip cs with
    | '\x22' :: cs => (string? (cs.length + 1) [] cs).map fun r => (.text r.1, r.2)
    | '[' :: cs =>
      match skip cs with
      | ']' :: cs => some (.list [], cs)
      | cs => (items? fuel cs).map fun r => (.list r.1, r.2)
    | '\x7b' :: cs =>
      match skip cs with
      | '\x7d' :: cs => some (.object [], cs)
      | cs => (fields? fuel [] cs).map fun r => (.object r.1, r.2)
    | cs => scalar? cs

/-- The items of a list up to its end. -/
def items? : (fuel : Nat) → List Char → Option (List Value × List Char)
  | 0, _ => none
  | fuel + 1, cs =>
    match value? fuel cs with
    | none => none
    | some (v, cs) =>
      match skip cs with
      | ',' :: cs => (items? fuel cs).map fun r => (v :: r.1, r.2)
      | ']' :: cs => some ([v], cs)
      | _ => none

/-- The fields of an object up to its end, added to those before them. -/
def fields? : (fuel : Nat) → List (String × Value) → List Char →
    Option (List (String × Value) × List Char)
  | 0, _, _ => none
  | fuel + 1, before, cs =>
    match skip cs with
    | '\x22' :: cs =>
      match string? (cs.length + 1) [] cs with
      | none => none
      | some (name, cs) =>
        match skip cs with
        | ':' :: cs =>
          match value? fuel cs with
          | none => none
          | some (v, cs) =>
            let fields := Value.setField before name v
            match skip cs with
            | ',' :: cs => fields? fuel fields cs
            | '\x7d' :: cs => some (fields, cs)
            | _ => none
        | _ => none
    | _ => none

end

/-- The value that a whole text stands for. -/
def parse? (s : String) : Option Value :=
  let cs := s.toList
  match value? (2 * cs.length + 2) cs with
  | some (v, rest) => if (skip rest).isEmpty then some v else none
  | none => none

end Signatory.Json
