import Signatory.Failure

/-!
# Reading Binary Canonical Serialization

A reader takes bytes from the front of its input. A reader that fails keeps the place it
had reached. Only what a write puts out is accepted: lengths in the fewest groups and
within their limit, flags 0 and 1, texts in valid UTF-8.
-/

namespace Signatory.Bcs

/-- The place in an input: how many bytes were taken, and those that remain. -/
structure Cursor where
  offset : Nat
  rest : Bytes
  deriving DecidableEq, Repr

abbrev Reader := EStateM Failure Cursor

namespace Read

def fail {α : Type} (fault : ReadFault) : Reader α :=
  throw (.unreadable fault)

/-- The next `n` bytes. -/
def take (n : Int) : Reader Bytes := fun c =>
  let chunk := c.rest.take n.toNat
  if n < 0 ∨ chunk.length < n.toNat then fail (.truncated c.offset n) c
  else .ok chunk ⟨c.offset + n.toNat, c.rest.drop n.toNat⟩

/-- The next byte. -/
def byte : Reader UInt8 := fun c =>
  match c.rest with
  | [] => fail (.truncated c.offset 1) c
  | b :: rest => .ok b ⟨c.offset + 1, rest⟩

/-- The rest of a length, `groups` groups of seven bits at most; `value` is what the
`index` groups before stand for. -/
def lengthFrom : (groups index value : Nat) → Reader Nat
  | 0, _, _ => fail .tooLong
  | g + 1, index, value => do
    let b ← byte
    let total := value + (b.toNat % 128) <<< (7 * index)
    if b.toNat < 128 then
      if b.toNat = 0 ∧ 0 < index then fail .notMinimal
      else if lengthLimit ≤ total then fail .outOfRange
      else pure total
    else lengthFrom g (index + 1) total

/-- A length or variant tag. -/
def length : Reader Nat :=
  lengthFrom 5 0 0

def uint (w : Width) : Reader Nat := do
  let bs ← take w.bytes
  pure (Bytes.leNat bs)

def boolean : Reader Bool := do
  let b ← byte
  if 1 < b.toNat then fail (.badFlag b.toNat) else pure (b.toNat == 1)

def byteVec : Reader Bytes := do
  let n ← length
  take n

def string : Reader String := do
  let bs ← byteVec
  match Bytes.toText? bs with
  | some s => pure s
  | none => fail .badText

/-- A given number of items. -/
def items {α : Type} (item : Reader α) : (count : Nat) → Reader (List α)
  | 0 => pure []
  | n + 1 => do
    let a ← item
    let rest ← items item n
    pure (a :: rest)

/-- A count and as many items. -/
def seq {α : Type} (item : Reader α) : Reader (List α) := do
  let n ← length
  items item n

/-- Nothing may remain. -/
def finish : Reader Unit := fun c =>
  if c.rest.isEmpty then .ok () c else fail (.trailing c.rest.length) c

end Read

/-- What a reader gives for a whole input. -/
def Reader.run {α : Type} (r : Reader α) (input : Bytes) : Except Failure α :=
  match EStateM.run r ⟨0, input⟩ with
  | .ok a _ => .ok a
  | .error f _ => .error f

end Signatory.Bcs
