import Signatory.Data.Json
import Signatory.Failure
import Signatory.Model.IntegerText

/-!
# Checking untyped values

A check turns an untyped value into a typed one or lists all issues. Checks of several
fields are combined side by side, so that the issues of all of them are kept, in order.

1. `required`, `optional` and `nullable` look up a field of an object.
2. `text`, `integer`, `natural`, `listOf` and `ofObject` check values by their type.
3. A `Model` pairs a check with the value that stands for a typed one.
-/

namespace Signatory

/-- A checked value, or what is wrong with it. -/
inductive Checked (α : Type) where
  | valid (value : α)
  | invalid (issues : List Issue)
  deriving Repr

namespace Checked

/-- Applies a checked function; the issues of both sides are kept. -/
def apply {α β : Type} : Checked (α → β) → Checked α → Checked β
  | valid f, valid a => valid (f a)
  | valid _, invalid is => invalid is
  | invalid is, valid _ => invalid is
  | invalid is, invalid js => invalid (is ++ js)

instance : Applicative Checked where
  pure := valid
  seq f a := apply f (a ())

/-- The issue that a value as a whole is wrong. -/
def refuse {α : Type} (kind : Issue.Kind) : Checked α :=
  invalid [⟨[], kind⟩]

/-- A check of a part, with its issues placed in the whole. -/
def within {α : Type} (step : String) : Checked α → Checked α
  | valid a => valid a
  | invalid is => invalid (is.map (Issue.within step))

/-- Goes on with a second check if there are no issues. -/
def andThen {α β : Type} (c : Checked α) (next : α → Checked β) : Checked β :=
  match c with
  | valid a => next a
  | invalid is => invalid is

end Checked

/-- The fields of an object. -/
abbrev Fields := List (String × Value)

namespace Check

open Checked

/-! ## Fields -/

/-- A field that must be present. -/
def required {α : Type} (fs : Fields) (name : String) (check : Value → Checked α) : Checked α :=
  within name (((fs.lookup name).map check).getD (refuse .missing))

/-- A field with a default. -/
def optional {α : Type} (fs : Fields) (name : String) (default : α) (check : Value → Checked α) :
    Checked α :=
  within name (((fs.lookup name).map check).getD (valid default))

/-- A value that may be null. -/
def orNull {α : Type} (check : Value → Checked α) : Value → Checked (Option α)
  | .null => valid none
  | v => some <$> check v

/-- A field that may be absent or null. -/
def nullable {α : Type} (fs : Fields) (name : String) (check : Value → Checked α) :
    Checked (Option α) :=
  optional fs name none (orNull check)

/-! ## Values -/

def ofObject {α : Type} (check : Fields → Checked α) : Value → Checked α
  | .object fs => check fs
  | _ => refuse .noObject

/-- Items from a position on. -/
def itemsFrom {α : Type} (check : Value → Checked α) : (position : Nat) → List Value →
    Checked (List α)
  | _, [] => valid []
  | n, v :: vs =>
    List.cons <$> within (toString n) (check v) <*> itemsFrom check (n + 1) vs

def listOf {α : Type} (check : Value → Checked α) : Value → Checked (List α)
  | .list vs => itemsFrom check 0 vs
  | _ => refuse .noList

/-- A text, or bytes that are the UTF-8 form of one. -/
def text : Value → Checked String
  | .text s => valid s
  | .bytes bs =>
    match Bytes.toText? bs with
    | some s => valid s
    | none => refuse .textEncoding
  | _ => refuse .noText

/-- The integer of a text. -/
def integerOfText (s : String) : Checked Int :=
  match IntegerText.read s with
  | .ok n => valid n
  | .error kind => refuse kind

/-- The integer that a floating-point number is. -/
def integerOfFloat (x : Binary64) : Checked Int :=
  match x with
  | .finite .. =>
    match x.toInt? with
    | none => refuse .integerFraction
    | some n => if n.natAbs < 1 <<< 63 then valid n else refuse .integerSize
  | _ => refuse .notFinite

def integer : Value → Checked Int
  | .int n => valid n
  | .bool b => valid (if b then 1 else 0)
  | .float x => integerOfFloat x
  | .text s => integerOfText s
  | .bytes bs =>
    match Bytes.toText? bs with
    | some s => integerOfText s
    | none => refuse .integerText
  | .null | .list _ | .object _ => refuse .noInteger

/-- An integer that is not negative. -/
def natural (v : Value) : Checked Nat :=
  (integer v).andThen fun n => if n < 0 then refuse .negative else valid n.toNat

end Check

/-- A type of values that requests are made of. -/
structure Model (α : Type) where
  check : Value → Checked α
  toValue : α → Value

namespace Model

/-- The typed value, or a failure with all issues. -/
def read {α : Type} (m : Model α) (v : Value) : Except Failure α :=
  match m.check v with
  | .valid a => .ok a
  | .invalid is => .error (.invalidModel is)

/-- The typed value of a JSON text. -/
def readJson {α : Type} (m : Model α) (s : String) : Except Failure α :=
  match Json.parse? s with
  | some v => m.read v
  | none => .error (.invalidModel [⟨[], .invalidJson⟩])

end Model

end Signatory
