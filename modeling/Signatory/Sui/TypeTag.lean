import Signatory.Bcs.Schema
import Signatory.Sui.Address
import Signatory.Sui.Nesting
import Signatory.Text.Word

/-!
# Move type tags

A type tag is a primitive type, a vector or a struct with type parameters. Transactions
carry type tags as texts; in serialized form they are trees.

1. `parse` reads the tree of a text: blanks around each tag are dropped, addresses may be
   short, empty brackets stand for no parameters.
2. `text` is the one plain spelling of a tree.
3. `write` and `read` are the serialized form.

Reading a text or bytes goes down into nested tags as far as a budget of calls has room.
-/

namespace Signatory.Sui

open Bcs

/-- The types without parts. -/
inductive Primitive where
  | bool
  | u8
  | u64
  | u128
  | address
  | signer
  | u16
  | u32
  | u256
  deriving DecidableEq, Repr

namespace Primitive

def all : List Primitive := [bool, u8, u64, u128, address, signer, u16, u32, u256]

def name : Primitive → String
  | bool => "bool"
  | u8 => "u8"
  | u64 => "u64"
  | u128 => "u128"
  | address => "address"
  | signer => "signer"
  | u16 => "u16"
  | u32 => "u32"
  | u256 => "u256"

/-- The variant that stands for a type. -/
def variant : Primitive → Nat
  | bool => 0
  | u8 => 1
  | u64 => 2
  | u128 => 3
  | address => 4
  | signer => 5
  | u16 => 8
  | u32 => 9
  | u256 => 10

def ofName? (s : String) : Option Primitive :=
  all.find? (·.name == s)

def ofVariant? (n : Nat) : Option Primitive :=
  all.find? (·.variant == n)

end Primitive

inductive TypeTag where
  | primitive (p : Primitive)
  | vector (element : TypeTag)
  | struct (address : Bytes) (module name : String) (parameters : List TypeTag)
  deriving Repr

namespace TypeTag

/-! ## Texts -/

/-- Cuts a text at its commas outside brackets. `depth` counts open brackets and may fall
below zero; `piece` holds the characters since the last cut, last first. -/
def cut : (depth : Int) → (piece : List Char) → List Char → List (List Char)
  | _, piece, [] => [piece.reverse]
  | depth, piece, c :: cs =>
    if c = '<' then cut (depth + 1) (c :: piece) cs
    else if c = '>' then cut (depth - 1) (c :: piece) cs
    else if c = ',' ∧ depth = 0 then piece.reverse :: cut 0 [] cs
    else cut depth (c :: piece) cs

/-- The parameters in a text, without the blanks around each. -/
def splitParameters (cs : List Char) : List (List Char) :=
  (cut 0 [] cs).map (Text.trim Text.isBlank)

/-- The part of a text between what must stand in front and what must stand behind. -/
def between? (front : List Char) (back : Char) (cs : List Char) : Option (List Char) :=
  if front.isPrefixOf cs ∧ (cs.drop front.length).getLast? = some back then
    some (cs.drop front.length).dropLast
  else none

/-- A text up to the first double colon, and what follows it. -/
def splitColons? : List Char → Option (List Char × List Char)
  | ':' :: ':' :: cs => some ([], cs)
  | c :: cs => (splitColons? cs).map fun (a, b) => (c :: a, b)
  | [] => none

/-- The outside of a struct tag: its parts as they are written. -/
structure StructText where
  digits : List Char
  module : List Char
  name : List Char
  parameters : List (List Char)

/-- One or more characters of a name. -/
def isName (cs : List Char) : Bool :=
  !cs.isEmpty && cs.all Text.isWord

/-- The name at the front of a text, and the parameters in brackets behind it. -/
def nameAndParameters? (cs : List Char) : Option (List Char × List (List Char)) :=
  let name := cs.takeWhile Text.isWord
  if name.isEmpty then none
  else
    match cs.dropWhile Text.isWord with
    | [] => some (name, [])
    | rest =>
      match between? ['<'] '>' rest with
      | some [] => some (name, [])
      | some inner => if inner.contains '\n' then none else some (name, splitParameters inner)
      | none => none

/-- The outside of a struct tag. -/
def structText? (cs : List Char) : Option StructText := do
  let (address, cs) ← splitColons? cs
  let (module, cs) ← splitColons? cs
  let (name, parameters) ← nameAndParameters? cs
  match address with
  | '0' :: 'x' :: ds =>
    if !ds.isEmpty && ds.all Text.isHexDigit && isName module then
      some ⟨ds, module, name, parameters⟩
    else none
  | _ => none

/-- The tree of a text, with room for some calls; `waiting` of them come before the text is
looked at. -/
def parseWithin (b : Budget) : (room waiting : Nat) → List Char → Except Failure TypeTag
  | 0, _, _ => .error .nestedTooDeep
  | room + 1, waiting + 1, cs => parseWithin b room waiting cs
  | room + 1, 0, cs =>
    let cs := Text.trim Text.isBlank cs
    match Primitive.ofName? (String.ofList cs) with
    | some p => .ok (primitive p)
    | none =>
      match between? "vector<".toList '>' cs with
      | some inner => vector <$> parseWithin b room b.vector inner
      | none =>
        match structText? cs with
        | none => .error (.invalidTypeTag (String.ofList cs))
        | some t => do
          let address ← Address.parse "type_arguments" ("0x" ++ String.ofList t.digits)
          let parameters ← t.parameters.mapM (parseWithin b room b.struct)
          pure (struct address (String.ofList t.module) (String.ofList t.name) parameters)

/-- The tree of a text. -/
def parse (b : Budget) (s : String) : Except Failure TypeTag :=
  parseWithin b b.calls 0 s.toList

mutual

/-- The plain spelling of a tree. -/
def text : TypeTag → String
  | primitive p => p.name
  | vector t => "vector<" ++ text t ++ ">"
  | struct address module name parameters =>
    Address.format address ++ "::" ++ module ++ "::" ++ name ++
      if parameters.isEmpty then "" else "<" ++ ", ".intercalate (texts parameters) ++ ">"

def texts : List TypeTag → List String
  | [] => []
  | t :: ts => text t :: texts ts

end

/-! ## Serialized form -/

mutual

def write : TypeTag → Emission
  | primitive p => Write.length p.variant
  | vector t => Write.length 6 ++ write t
  | struct address module name parameters =>
    Write.length 7 ++ Write.fixed address ++ Write.string module ++ Write.string name ++
      Write.length parameters.length ++ writes parameters

/-- Trees one after the other. -/
def writes : List TypeTag → Emission
  | [] => .done []
  | t :: ts => write t ++ writes ts

end

/-- Writes the tree of a text. -/
def writeText (b : Budget) (s : String) : Emission :=
  match parse b s with
  | .ok t => t.write
  | .error f => .stop f

/-- A tree, with room for some calls; `waiting` of them come before anything is read. -/
def readWithin (b : Budget) : (room waiting : Nat) → Reader TypeTag
  | 0, _ => throw .nestedTooDeep
  | room + 1, waiting + 1 => readWithin b room waiting
  | room + 1, 0 => do
    let tag ← Read.length
    match Primitive.ofVariant? tag with
    | some p => pure (primitive p)
    | none =>
      if tag = 6 then vector <$> readWithin b room b.vector
      else if tag = 7 then do
        let address ← Read.take addressLength
        let module ← Read.string
        let name ← Read.string
        let parameters ← Read.seq (readWithin b room b.struct)
        pure (struct address module name parameters)
      else throw (.unknownVariant "TypeTag" tag)

/-- A tree. -/
def read (b : Budget) : Reader TypeTag :=
  readWithin b b.calls 0

/-- The plain spelling of a serialized tree. -/
def readText (b : Budget) : Reader String :=
  text <$> read b

end TypeTag

end Signatory.Sui
