import Signatory.Text.Numeral

/-!
# Scalars of configuration files

Strings, numbers, dates and times as TOML 1.1 writes them. Each reader takes the text from
where a scalar starts and answers with the scalar and the text behind it.

1. `string` reads the four forms of strings.
2. `number?` finds a number and whether it is an integer.
3. `moment?` finds a date, a time of day, or both.
-/

namespace Signatory.Toml

/-- Why a text is no configuration: its form, or an integer with too many digits. -/
inductive Fault where
  | malformed
  | tooManyDigits
  deriving DecidableEq, Repr

/-- What a reader makes of the front of a text, and the rest of the text. -/
abbrev Front (α : Type) := α × List Char

def isBlank (c : Char) : Bool :=
  c = ' ' || c = '\t'

def skip (cs : List Char) : List Char :=
  cs.dropWhile isBlank

/-- The rest after a text that must come next. -/
def expect? (w : String) (cs : List Char) : Option (List Char) :=
  if w.toList.isPrefixOf cs then some (cs.drop w.length) else none

/-- Whether a control character may not stand in a string or a comment. Tabs may, and line
feeds where a string has several lines. -/
def isIllegal (multiline : Bool) (c : Char) : Bool :=
  (c.toNat < 0x20 || c.toNat = 0x7f) && c ≠ '\t' && !(multiline && c = '\n')

/-! ## Strings -/

/-- The character with a number of so many hexadecimal digits. -/
def numbered? (count : Nat) (cs : List Char) : Option (List Char × List Char) :=
  let ds := cs.take count
  let n := Text.ofDigits 16 (ds.filterMap Text.hexValue?)
  if ds.length = count ∧ ds.all Text.isHexDigit ∧ n.isValidChar then
    some ([Char.ofNat n], cs.drop count)
  else none

/-- The characters that an escape stands for, after its backslash: one, or none where it
joins lines. -/
def escape? (multiline : Bool) : List Char → Option (List Char × List Char)
  | [] => none
  | c :: cs =>
    if multiline ∧ (isBlank c ∨ c = '\n') then
      match skip (c :: cs) with
      | '\n' :: rest => some ([], rest.dropWhile fun c => isBlank c || c = '\n')
      | _ => none
    else if c = 'b' then some (['\x08'], cs)
    else if c = 't' then some (['\t'], cs)
    else if c = 'n' then some (['\n'], cs)
    else if c = 'f' then some (['\x0c'], cs)
    else if c = 'r' then some (['\r'], cs)
    else if c = 'e' then some (['\x1b'], cs)
    else if c = '\x22' ∨ c = '\x5c' then some ([c], cs)
    else if c = 'x' then numbered? 2 cs
    else if c = 'u' then numbered? 4 cs
    else if c = 'U' then numbered? 8 cs
    else none

/-- A string up to its closing quotes; `acc` holds its characters so far, last first.
Escapes have a meaning between double quotes only. -/
def stringEnd (quote : Char) (multiline : Bool) : (fuel : Nat) → List Char → List Char →
    Except Fault (Front (List Char))
  | 0, _, _ => .error .malformed
  | _ + 1, _, [] => .error .malformed
  | fuel + 1, acc, c :: cs =>
    if c = quote then
      if multiline then
        match cs with
        | a :: b :: rest =>
          if a = quote ∧ b = quote then .ok (acc, rest)
          else stringEnd quote multiline fuel (c :: acc) cs
        | _ => .error .malformed
      else .ok (acc, cs)
    else if c = '\x5c' ∧ quote = '\x22' then
      match escape? multiline cs with
      | some (e, cs) => stringEnd quote multiline fuel (e ++ acc) cs
      | none => .error .malformed
    else if isIllegal multiline c then .error .malformed
    else stringEnd quote multiline fuel (c :: acc) cs

/-- At most so many quotes, which belong to the string that was closed before them. -/
def trailingQuotes (quote : Char) : (count : Nat) → List Char → List Char → List Char × List Char
  | n + 1, acc, c :: cs =>
    if c = quote then trailingQuotes quote n (c :: acc) cs else (acc, c :: cs)
  | _, acc, cs => (acc, cs)

/-- A string of one line, after its opening quote. -/
def line (quote : Char) (cs : List Char) : Except Fault (Front String) := do
  let (acc, rest) ← stringEnd quote false (cs.length + 1) [] cs
  pure (String.ofList acc.reverse, rest)

/-- A string of several lines, after its opening quotes. A line feed behind them is not
part of it. -/
def lines (quote : Char) (cs : List Char) : Except Fault (Front String) := do
  let cs := (expect? "\n" cs).getD cs
  let (acc, rest) ← stringEnd quote true (cs.length + 1) [] cs
  let (acc, rest) := trailingQuotes quote 2 acc rest
  pure (String.ofList acc.reverse, rest)

/-- A string, after the first of its quotes. -/
def string (quote : Char) (cs : List Char) : Except Fault (Front String) :=
  match expect? (String.ofList [quote, quote]) cs with
  | some cs => lines quote cs
  | none => line quote cs

/-! ## Numbers -/

/-- The digits that follow a digit, with single underscores between them. -/
def digitTail (value? : Char → Option Nat) : List Char → Front (List Nat)
  | [] => ([], [])
  | c :: cs =>
    if c = '_' ∧ (cs.head?.bind value?).isSome then digitTail value? cs
    else
      match value? c with
      | none => ([], c :: cs)
      | some d =>
        let (ds, rest) := digitTail value? cs
        (d :: ds, rest)

/-- The digits at the front, with single underscores between them. -/
def digitRun (value? : Char → Option Nat) (cs : List Char) : Front (List Nat) :=
  if (cs.head?.bind value?).isSome then digitTail value? cs else ([], cs)

/-- The value of a digit of a base. -/
def digitOf? (base : Nat) (c : Char) : Option Nat :=
  (Text.hexValue? c).filter (· < base)

/-- The base that a letter behind a zero stands for. -/
def baseOf? (c : Char) : Option Nat :=
  if c = 'x' then some 16 else if c = 'o' then some 8 else if c = 'b' then some 2 else none

/-- An integer behind a mark of its base. -/
def marked? : List Char → Option (Int × List Char)
  | '0' :: c :: cs => do
    let base ← baseOf? c
    match digitRun (digitOf? base) cs with
    | ([], _) => none
    | (ds, rest) => some ((Text.ofDigits base ds : Nat), rest)
  | _ => none

/-- The rest after digits that must come next. -/
def passDigits? (cs : List Char) : Option (List Char) :=
  match digitRun (digitOf? 10) cs with
  | ([], _) => none
  | (_, rest) => some rest

/-- The rest after a fraction, if there is one. -/
def passFraction (cs : List Char) : List Char :=
  ((expect? "." cs).bind passDigits?).getD cs

/-- The rest after an exponent, if there is one. -/
def passExponent (cs : List Char) : List Char :=
  match cs with
  | c :: rest =>
    if c = 'e' ∨ c = 'E' then (passDigits? (Text.takeSign rest).2).getD cs else cs
  | [] => cs

/-- The digits in front of the point; a zero stands alone. -/
def wholePart : List Char → List Nat × List Char
  | '0' :: cs => ([0], cs)
  | cs => digitRun (digitOf? 10) cs

/-- A number at the front of a text: an integer, or none for a floating-point number. -/
def number? (cs : List Char) : Option (Except Fault (Front (Option Int))) :=
  match marked? cs with
  | some (n, rest) => some (.ok (some n, rest))
  | none =>
    let (negative, afterSign) := Text.takeSign cs
    match wholePart afterSign with
    | ([], _) =>
      match (expect? "inf" afterSign).orElse fun _ => expect? "nan" afterSign with
      | some rest => some (.ok (none, rest))
      | none => none
    | (ds, rest) =>
      let afterFloat := passExponent (passFraction rest)
      if afterFloat.length < rest.length then some (.ok (none, afterFloat))
      else if Text.digitLimit < ds.length then some (.error .tooManyDigits)
      else some (.ok (some (Text.withSign negative (Text.ofDigits 10 ds)), rest))

/-! ## Dates and times -/

/-- A number of so many digits within bounds. -/
def fixed? (count low high : Nat) (cs : List Char) : Option (Nat × List Char) :=
  let ds := cs.take count
  let n := Text.ofDigits 10 (ds.filterMap Text.decimalValue?)
  if ds.length = count ∧ ds.all Char.isDigit ∧ low ≤ n ∧ n ≤ high then some (n, cs.drop count)
  else none

/-- The rest after a fraction of a second, if there is one. -/
def passSubsecond (cs : List Char) : List Char :=
  match expect? "." cs with
  | some rest =>
    let after := rest.dropWhile Char.isDigit
    if after.length < rest.length then after else cs
  | none => cs

/-- The rest after hours and minutes. -/
def passMinutes? (cs : List Char) : Option (List Char) := do
  let (_, cs) ← fixed? 2 0 23 cs
  let (_, cs) ← fixed? 2 0 59 (← expect? ":" cs)
  pure cs

/-- The rest after the seconds behind hours and minutes, if there are any. -/
def passSeconds (cs : List Char) : List Char :=
  match (expect? ":" cs).bind (fixed? 2 0 59) with
  | some (_, rest) => passSubsecond rest
  | none => cs

/-- The rest after a time of day. -/
def passTime? (cs : List Char) : Option (List Char) :=
  (passMinutes? cs).map passSeconds

/-- The rest after the offset of a time, if there is one. -/
def passZone (cs : List Char) : List Char :=
  match cs with
  | c :: rest =>
    if c = 'Z' ∨ c = 'z' then rest
    else if c = '+' ∨ c = '-' then (passMinutes? rest).getD cs
    else cs
  | [] => cs

def isLeapYear (year : Nat) : Bool :=
  year % 4 = 0 && (year % 100 ≠ 0 || year % 400 = 0)

def daysOfMonth (year month : Nat) : Nat :=
  if month = 2 then if isLeapYear year then 29 else 28
  else if [4, 6, 9, 11].contains month then 30
  else 31

/-- The rest after a date, and whether the calendar has it. -/
def date? (cs : List Char) : Option (Bool × List Char) := do
  let (year, cs) ← fixed? 4 0 9999 cs
  let (month, cs) ← fixed? 2 1 12 (← expect? "-" cs)
  let (day, cs) ← fixed? 2 1 31 (← expect? "-" cs)
  pure (0 < year && day ≤ daysOfMonth year month, cs)

/-- The rest after the time of a day whose date came before, if there is one. -/
def passDayTime (cs : List Char) : List Char :=
  match cs with
  | c :: rest =>
    if c = 'T' ∨ c = 't' ∨ c = ' ' then ((passTime? rest).map passZone).getD cs else cs
  | [] => cs

/-- The text of a date or a time at the front of a text. -/
def moment? (cs : List Char) : Option (Except Fault (Front String)) :=
  let upTo (rest : List Char) : String × List Char :=
    (String.ofList (cs.take (cs.length - rest.length)), rest)
  match date? cs with
  | some (true, rest) => some (.ok (upTo (passDayTime rest)))
  | some (false, _) => some (.error .malformed)
  | none => (passTime? cs).map fun rest => .ok (upTo rest)

end Signatory.Toml
