import Signatory.Data.Value

/-!
# The table of chains

Each chain accepts some curves, the first being its default, and has a default account
path for each of them. Chains are looked up by a tag, in any letter case and with blanks
around it.

1. `ChainTable.register` adds or replaces a chain.
2. `curveFor` and `defaultPath` answer for a tag and a wanted curve.
-/

namespace Signatory

/-! ## Tags -/

namespace Tag

/-- The form of a tag that tables are keyed by. -/
def normal (s : String) : String :=
  Text.upper (Text.strip s)

/-- The form of a tag of any type. A missing tag is empty. -/
def ofValue (tag : Value) : Except Failure String :=
  if tag.isEmpty then .ok ""
  else do
    let s ← tag.plain
    pure (normal s)

/-- The refusal of a tag that is in no table. -/
def unknown (tag : Value) : Failure :=
  .unsupportedChain ((tag.literal Value.literalRoom).toOption.getD "")

end Tag

/-! ## Chains -/

/-- A chain: its tag, its curves and their default paths. -/
structure ChainInfo where
  chain : String
  curves : List Curve
  paths : List (Curve × String)
  deriving DecidableEq, Repr

/-- The curve that a request wants: none in particular, one by its name, or a curve. -/
inductive CurveChoice where
  | unspecified
  | named (name : String)
  | exactly (curve : Curve)
  deriving DecidableEq, Repr

/-- A curve may be left out or be given by name; an empty name counts as left out. -/
def CurveChoice.ofName? : Option String → CurveChoice
  | none => .unspecified
  | some s => .named s

namespace ChainInfo

/-- Whether there is a curve, and a path for every accepted curve and no other. -/
def isComplete (i : ChainInfo) : Bool :=
  !i.curves.isEmpty && i.curves.all (fun c => (i.paths.lookup c).isSome) &&
    i.paths.all (fun p => i.curves.contains p.1)

/-- The curve that is used when none is wanted. -/
def defaultCurve (i : ChainInfo) : Except Failure Curve :=
  match i.curves with
  | c :: _ => .ok c
  | [] => .error (.incompletePaths i.chain)

/-- An accepted curve. -/
def accept (i : ChainInfo) (c : Curve) : Except Failure Curve :=
  if i.curves.contains c then .ok c else .error (.curveNotAccepted i.chain c)

/-- The curve to use for what is wanted. -/
def curveFor (i : ChainInfo) : CurveChoice → Except Failure Curve
  | .unspecified => i.defaultCurve
  | .named name =>
    if name.isEmpty then i.defaultCurve
    else
      match Curve.parse? name with
      | some c => i.accept c
      | none => .error (.unknownCurve name)
  | .exactly c => i.accept c

/-- The default path of a curve. -/
def pathOf (i : ChainInfo) (c : Curve) : Except Failure String :=
  match i.paths.lookup c with
  | some path => .ok path
  | none => .error (.incompletePaths i.chain)

def sui : ChainInfo where
  chain := "SUI"
  curves := [.ed25519, .secp256k1, .p256]
  paths := [(.ed25519, "m/44'/784'/0'/0'/0'"), (.secp256k1, "m/54'/784'/0'/0/0"),
    (.p256, "m/74'/784'/0'/0/0")]

def starknet : ChainInfo where
  chain := "STARKNET"
  curves := [.stark]
  paths := [(.stark, "m/44'/9004'/0'/0/0")]

end ChainInfo

/-- Chains by the normal form of their tags. -/
structure ChainTable where
  entries : List (String × ChainInfo)
  deriving DecidableEq, Repr

/-- A list of pairs with one added, or replaced where its key is present. -/
def putPair {α β : Type} [BEq α] (pairs : List (α × β)) (key : α) (value : β) : List (α × β) :=
  if pairs.any (·.1 == key) then pairs.map fun p => if p.1 == key then (key, value) else p
  else pairs ++ [(key, value)]

namespace ChainTable

/-- The table of the built-in chains. -/
def standard : ChainTable :=
  ⟨[("SUI", .sui), ("STARKNET", .starknet)]⟩

/-- Adds or replaces a chain, which must have a path for every curve. -/
def register (t : ChainTable) (i : ChainInfo) : Except Failure ChainTable :=
  if i.isComplete then .ok ⟨putPair t.entries (Tag.normal i.chain) i⟩
  else .error (.incompletePaths i.chain)

/-- The chain of a tag. -/
def find (t : ChainTable) (tag : Value) : Except Failure ChainInfo := do
  match t.entries.lookup (← Tag.ofValue tag) with
  | some i => pure i
  | none => throw (Tag.unknown tag)

/-- The curve to sign with on a chain. -/
def curveFor (t : ChainTable) (tag : Value) (choice : CurveChoice) : Except Failure Curve := do
  (← t.find tag).curveFor choice

/-- The default account path of a chain and a curve. -/
def defaultPath (t : ChainTable) (tag : Value) (choice : CurveChoice) : Except Failure String := do
  let i ← t.find tag
  i.pathOf (← i.curveFor choice)

/-- The tags in the table. -/
def chains (t : ChainTable) : List String :=
  t.entries.map (·.1)

end ChainTable

/-- The curve of a name that someone asks for directly. -/
def Curve.ofName (name : String) : Except Failure Curve :=
  match Curve.parse? name with
  | some c => .ok c
  | none => .error (.unknownName name)

end Signatory
