import Signatory.Bytes

/-!
# Integer widths

The unsigned integer types of Binary Canonical Serialization, and the range of lengths.
-/

namespace Signatory.Bcs

inductive Width where
  | u8
  | u16
  | u32
  | u64
  | u128
  | u256
  deriving DecidableEq, Repr

namespace Width

/-- How many bytes an integer takes. -/
def bytes : Width → Nat
  | u8 => 1
  | u16 => 2
  | u32 => 4
  | u64 => 8
  | u128 => 16
  | u256 => 32

def name : Width → String
  | u8 => "u8"
  | u16 => "u16"
  | u32 => "u32"
  | u64 => "u64"
  | u128 => "u128"
  | u256 => "u256"

/-- The least number that is too large. -/
def limit (w : Width) : Nat :=
  Bytes.capacity w.bytes

end Width

/-- The bound of lengths and variant tags. -/
def lengthLimit : Nat := Bytes.capacity 4

end Signatory.Bcs
