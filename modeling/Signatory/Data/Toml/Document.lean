import Signatory.Data.Toml.Scalar

/-!
# Configuration files

The tables of a configuration file in TOML 1.1. A file is a list of statements: a header
names the table that the following keys belong to, a key may name a table inside it with
dots. Each table is declared at most once.

1. `Draft` is the state between two statements.
2. `parse` reads a whole file into the fields of its outermost table.
-/

namespace Signatory

/-- A value of a configuration file. Dates, times and floating-point numbers keep their
text. -/
inductive Toml where
  | text (s : String)
  | integer (n : Int)
  | bool (b : Bool)
  | literal (s : String)
  | list (items : List Toml)
  /-- A table. One that is written in braces is closed: nothing can be added to it. -/
  | table (closed : Bool) (fields : List (String × Toml))
  /-- Tables of one name, the newest first. -/
  | tables (newest : List (String × Toml)) (older : List (List (String × Toml)))
  deriving Inhabited

namespace Toml

/-- A name in a table, or the names that lead to it. -/
abbrev Key := List String

abbrev Table := List (String × Toml)

/-! ## Tables -/

/-- A table with the value of a name added or replaced. -/
def put (fields : Table) (name : String) (v : Toml) : Table :=
  if fields.any (·.1 == name) then fields.map fun f => if f.1 == name then (name, v) else f
  else fields ++ [(name, v)]

/-- Changes the table at the end of a key. Tables on the way are made where they are
missing; of several tables of one name the newest is meant. -/
def edit (f : Table → Option Table) : Key → Table → Option Table
  | [], fields => f fields
  | name :: key, fields =>
    match fields.lookup name with
    | none => (edit f key []).map fun t => put fields name (.table false t)
    | some (.table false t) => (edit f key t).map fun t => put fields name (.table false t)
    | some (.tables t older) => (edit f key t).map fun t => put fields name (.tables t older)
    | some _ => none

/-- Adds a name that a table does not have yet. -/
def addNew (name : String) (v : Toml) (fields : Table) : Option Table :=
  if (fields.lookup name).isSome then none else some (fields ++ [(name, v)])

/-- Adds a table to the tables of one name. -/
def addTable (name : String) (fields : Table) : Option Table :=
  match fields.lookup name with
  | none => some (fields ++ [(name, .tables [] [])])
  | some (.tables newest older) => some (put fields name (.tables [] (newest :: older)))
  | some _ => none

/-- An answer, or the failure that the text has no valid form. -/
def orMalformed {α : Type} : Option α → Except Fault α
  | some a => .ok a
  | none => .error .malformed

/-! ## Keys -/

def isBareKey (c : Char) : Bool :=
  c.isAlphanum || c = '-' || c = '_'

/-- One name of a key. -/
def keyPart : List Char → Except Fault (Front String)
  | '\x22' :: cs => line '\x22' cs
  | '\'' :: cs => line '\'' cs
  | cs =>
    match cs.span isBareKey with
    | ([], _) => .error .malformed
    | (name, rest) => .ok (String.ofList name, rest)

/-- The names of a key, with dots between them. -/
def key : (fuel : Nat) → List Char → Except Fault (Front Key)
  | 0, _ => .error .malformed
  | fuel + 1, cs => do
    let (name, rest) ← keyPart cs
    match skip rest with
    | '.' :: rest =>
      let (names, rest) ← key fuel (skip rest)
      pure (name :: names, rest)
    | rest => pure ([name], rest)

/-! ## Values -/

/-- The text without the comment that it starts with. -/
def skipComment : List Char → Except Fault (List Char)
  | '#' :: cs =>
    let (comment, rest) := cs.span (· ≠ '\n')
    if comment.any (isIllegal false) then .error .malformed else .ok rest
  | cs => .ok cs

/-- The text without the blanks, line feeds and comments that it starts with. -/
def skipLines : (fuel : Nat) → List Char → Except Fault (List Char)
  | 0, cs => .ok cs
  | fuel + 1, cs =>
    match cs.dropWhile fun c => isBlank c || c = '\n' with
    | '#' :: rest => do skipLines fuel (← skipComment ('#' :: rest))
    | rest => .ok rest

/-- A value without parts. -/
def scalar (cs : List Char) : Except Fault (Front Toml) :=
  match expect? "true" cs, expect? "false" cs with
  | some rest, _ => .ok (.bool true, rest)
  | _, some rest => .ok (.bool false, rest)
  | none, none =>
    match moment? cs with
    | some r => do
      let (s, rest) ← r
      pure (.literal s, rest)
    | none => do
      let (n, rest) ← (number? cs).getD (.error .malformed)
      match n with
      | some n => pure (.integer n, rest)
      | none => pure (.literal (String.ofList (cs.take (cs.length - rest.length))), rest)

mutual

/-- A value at the front of a text. -/
def value : (fuel : Nat) → List Char → Except Fault (Front Toml)
  | 0, _ => .error .malformed
  | fuel + 1, cs =>
    match cs with
    | '\x22' :: cs => do
      let (s, rest) ← string '\x22' cs
      pure (.text s, rest)
    | '\'' :: cs => do
      let (s, rest) ← string '\'' cs
      pure (.text s, rest)
    | '[' :: cs => do
      let (items, rest) ← items fuel cs
      pure (.list items, rest)
    | '\x7b' :: cs => do
      let (fields, rest) ← fields fuel [] cs
      pure (.table true fields, rest)
    | cs => scalar cs

/-- The items of a list up to its end. -/
def items : (fuel : Nat) → List Char → Except Fault (Front (List Toml))
  | 0, _ => .error .malformed
  | fuel + 1, cs => do
    match ← skipLines cs.length cs with
    | ']' :: rest => pure ([], rest)
    | cs =>
      let (v, rest) ← value fuel cs
      match ← skipLines rest.length rest with
      | ']' :: rest => pure ([v], rest)
      | ',' :: rest =>
        let (vs, rest) ← items fuel rest
        pure (v :: vs, rest)
      | _ => throw .malformed

/-- The fields of a table in braces up to its end, added to those before them. -/
def fields : (fuel : Nat) → Table → List Char → Except Fault (Front Table)
  | 0, _, _ => .error .malformed
  | fuel + 1, before, cs => do
    match ← skipLines cs.length cs with
    | '\x7d' :: rest => pure (before, rest)
    | cs =>
      let (k, v, rest) ← assignment fuel cs
      let after ← orMalformed (edit (addNew (k.getLastD "") v) k.dropLast before)
      match ← skipLines rest.length rest with
      | '\x7d' :: rest => pure (after, rest)
      | ',' :: rest => fields fuel after rest
      | _ => throw .malformed

/-- A key, an equals sign and a value. -/
def assignment : (fuel : Nat) → List Char → Except Fault (Key × Toml × List Char)
  | 0, _ => .error .malformed
  | fuel + 1, cs => do
    match ← key cs.length cs with
    | (k, '=' :: rest) =>
      let (v, rest) ← value fuel (skip rest)
      pure (k, v, rest)
    | _ => throw .malformed

end

/-! ## Documents -/

/-- A document so far. `current` names the table that keys are added to; `declared` are
the keys of tables that may not be declared again, `pending` those that join them with
the next header. -/
structure Draft where
  root : Table
  current : Key
  declared : List Key
  pending : List Key

namespace Draft

def empty : Draft := ⟨[], [], [], []⟩

/-- The draft when a new header starts. -/
def settled (d : Draft) : Draft :=
  { d with declared := d.declared ++ d.pending, pending := [] }

/-- The header of one table. -/
def openTable (d : Draft) (k : Key) : Option Draft := do
  if d.declared.contains k then none
  else
    let root ← edit some k d.root
    some { d with root, current := k, declared := k :: d.declared }

/-- The header of one of several tables of one name. What was declared inside the one
before may be declared again. -/
def openNext (d : Draft) (k : Key) : Option Draft := do
  let root ← edit (addTable (k.getLastD "")) k.dropLast d.root
  some { d with root, current := k, declared := k :: d.declared.filter fun p => !k.isPrefixOf p }

/-- The tables that the dots of a key lead through, from the outermost table on. -/
def through (d : Draft) (k : Key) : List Key :=
  (List.range (k.length - 1)).map fun i => d.current ++ k.take (i + 1)

/-- A key with its value. -/
def assign (d : Draft) (k : Key) (v : Toml) : Option Draft := do
  let inner := d.through k
  if inner.any d.declared.contains then none
  else
    let root ← edit (addNew (k.getLastD "") v) (d.current ++ k.dropLast) d.root
    some { d with root, pending := d.pending ++ inner }

/-- The effect of the statement at the front of a line that is not empty. -/
def statement (d : Draft) (cs : List Char) : Except Fault (Draft × List Char) :=
  match cs with
  | '[' :: '[' :: cs => do
    let (k, rest) ← key cs.length (skip cs)
    let rest ← orMalformed (expect? "]]" rest)
    pure (← orMalformed (d.settled.openNext k), rest)
  | '[' :: cs => do
    let (k, rest) ← key cs.length (skip cs)
    let rest ← orMalformed (expect? "]" rest)
    pure (← orMalformed (d.settled.openTable k), rest)
  | '#' :: _ => pure (d, cs)
  | _ => do
    let (k, v, rest) ← assignment (2 * cs.length) cs
    pure (← orMalformed (d.assign k v), rest)

/-- Statements up to the end of the text. -/
def run : (fuel : Nat) → Draft → List Char → Except Fault Draft
  | 0, _, _ => .error .malformed
  | fuel + 1, d, cs =>
    match skip cs with
    | [] => .ok d
    | '\n' :: rest => run fuel d rest
    | cs => do
      let (d, rest) ← d.statement cs
      match ← skipComment (skip rest) with
      | [] => pure d
      | '\n' :: rest => run fuel d rest
      | _ => throw .malformed

end Draft

/-- Line feeds in place of carriage returns with line feeds. -/
def normalLines : List Char → List Char
  | '\r' :: '\n' :: cs => '\n' :: normalLines cs
  | c :: cs => c :: normalLines cs
  | [] => []

/-- The fields of a configuration file. -/
def parse (s : String) : Except Fault Table := do
  let cs := normalLines s.toList
  let d ← Draft.run (cs.length + 1) .empty cs
  pure d.root

end Toml

end Signatory
