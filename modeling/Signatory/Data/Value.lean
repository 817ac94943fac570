import Signatory.Data.Binary64
import Signatory.Failure

/-!
# Untyped values

The values that a request is made of before it is checked: those of JSON, with integers
and floating-point numbers told apart, and byte strings. `Value.literal` is their text in
messages.
-/

namespace Signatory

/-- A value of a request. The fields of an object have distinct names and keep the order
in which they were first given. -/
inductive Value where
  | null
  | bool (b : Bool)
  | int (n : Int)
  | float (x : Binary64)
  | text (s : String)
  | bytes (bs : Bytes)
  | list (items : List Value)
  | object (fields : List (String × Value))
  deriving Inhabited

namespace Value

/-- The field of an object. -/
def field? (name : String) : Value → Option Value
  | .object fields => fields.lookup name
  | _ => none

/-- The value of something that may be absent. -/
def ofOption {α : Type} (toValue : α → Value) : Option α → Value
  | some a => toValue a
  | none => .null

/-- The name of a value's type in messages. -/
def typeName : Value → String
  | .null => "NoneType"
  | .bool _ => "bool"
  | .int _ => "int"
  | .float _ => "float"
  | .text _ => "str"
  | .bytes _ => "bytes"
  | .list _ => "list"
  | .object _ => "dict"

/-- Whether a value counts as missing: null, false, zero or empty. -/
def isEmpty : Value → Bool
  | .null => true
  | .bool b => !b
  | .int n => n == 0
  | .float x => x.isZero
  | .text s => s.isEmpty
  | .bytes bs => bs.isEmpty
  | .list items => items.isEmpty
  | .object fields => fields.isEmpty

/-- How many calls fit on the stack for the literal of a value. -/
def literalRoom : Nat := 980

mutual

/-- The literal of a value, with room for some calls: one for each value and each value in it. -/
def literal : Value → (room : Nat) → Except Failure String
  | _, 0 => .error .nestedTooDeep
  | .null, _ + 1 => .ok "None"
  | .bool b, _ + 1 => .ok (if b then "True" else "False")
  | .int n, _ + 1 => if Text.exceedsDigitLimit n then .error .tooManyDigits else .ok (Text.signed n)
  | .float x, _ + 1 => .ok x.text
  | .text s, _ + 1 => .ok (Text.quoted s)
  | .bytes bs, _ + 1 => .ok (Text.quotedBytes bs)
  | .list items, room + 1 => do
    let ls ← itemLiterals items room
    pure ("[" ++ ", ".intercalate ls ++ "]")
  | .object fields, room + 1 => do
    let ls ← fieldLiterals fields room
    pure ("\x7b" ++ ", ".intercalate ls ++ "\x7d")

def itemLiterals : List Value → (room : Nat) → Except Failure (List String)
  | [], _ => .ok []
  | v :: vs, room => do
    let l ← literal v room
    let ls ← itemLiterals vs room
    pure (l :: ls)

def fieldLiterals : List (String × Value) → (room : Nat) → Except Failure (List String)
  | [], _ => .ok []
  | (name, v) :: fs, room => do
    let l ← literal v room
    let ls ← fieldLiterals fs room
    pure ((Text.quoted name ++ ": " ++ l) :: ls)

end

/-- The plain text of a value: a text as it is, and the literal of anything else. -/
def plain : Value → Except Failure String
  | .text s => .ok s
  | v => v.literal literalRoom

/-- The fields of an object with one field added, or replaced where its name is present. -/
def setField (fields : List (String × Value)) (name : String) (v : Value) :
    List (String × Value) :=
  if fields.any (·.1 == name) then
    fields.map fun f => if f.1 == name then (name, v) else f
  else fields ++ [(name, v)]

end Value

end Signatory
