import Signatory.Bytes
import Signatory.Text.Numeral

/-!
# Derivation paths

A path is text such as `m/44'/784'/0'/0/0`: steps between slashes, each a number that may
be marked as hardened. A hardened step has its highest bit set.
-/

namespace Signatory.Path

/-- The bit that marks a step as hardened. -/
def hardenedBit : Nat := 1 <<< 31

def isHardened (step : Nat) : Bool :=
  hardenedBit ≤ step

/-- The three marks of a hardened step. -/
def isHardenedMark (c : Char) : Bool :=
  c = '\x27' || c = 'h' || c = 'p'

/-- The number of a step without its mark. -/
def number? (cs : List Char) : Option Nat := do
  let ds ← cs.mapM Text.decimalValue?
  if ds.isEmpty ∨ Text.digitLimit < ds.length then none
  else
    let n := Text.ofDigits 10 ds
    if n < Bytes.capacity 4 then some n else none

/-- A step, with blanks around it. -/
def step? (part : List Char) : Option Nat :=
  let cs := Text.trim Text.isBlank part
  match cs.getLast? with
  | none => none
  | some c =>
    if isHardenedMark c then
      (number? cs.dropLast).map fun n => if isHardened n then n else n + hardenedBit
    else number? cs

/-- The steps of a path. One slash at its end, empty parts and a leading `m` are dropped. -/
def parse? (path : String) : Option (List Nat) :=
  let cs := path.toList
  let cs := if cs.getLast? = some '/' then cs.dropLast else cs
  let parts := (cs.splitOn '/').filter fun part => !part.isEmpty
  let parts := if parts.head? = some ['m'] then parts.tail else parts
  parts.mapM step?

end Signatory.Path
