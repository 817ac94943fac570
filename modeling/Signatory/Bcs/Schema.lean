import Signatory.Bcs.Emission
import Signatory.Bcs.Reader

/-!
# Schemas

The types of serialized values, what values they have, and how these are written and
read.
-/

namespace Signatory.Bcs

/-- The type of a serialized value. -/
inductive Schema where
  | length
  | uint (w : Width)
  | boolean
  | fixed (n : Int)
  | byteVec
  | string
  | seq (item : Schema)
  deriving DecidableEq, Repr

namespace Schema

/-- The values of a schema. Numbers may be out of range and fixed bytes of any length. -/
abbrev Val : Schema → Type
  | length => Int
  | uint _ => Int
  | boolean => Bool
  | fixed _ => Bytes
  | byteVec => Bytes
  | string => String
  | seq item => List item.Val

/-- How a value is written. -/
def write : (s : Schema) → s.Val → Emission
  | length, v => Write.length v
  | uint w, v => Write.uint w v
  | boolean, v => Write.boolean v
  | fixed _, v => Write.fixed v
  | byteVec, v => Write.byteVec v
  | string, v => Write.string v
  | seq item, vs => Write.seq item.write vs

/-- How a value is read. -/
def read : (s : Schema) → Reader s.Val
  | length => (fun n : Nat => (n : Int)) <$> Read.length
  | uint w => (fun n : Nat => (n : Int)) <$> Read.uint w
  | boolean => Read.boolean
  | fixed n => Read.take n
  | byteVec => Read.byteVec
  | string => Read.string
  | seq item => Read.seq item.read

/-- The schema of a type name. -/
def ofName? (name : String) : Option Schema :=
  [("uleb128", length), ("variant", length), ("u8", uint .u8), ("u16", uint .u16),
   ("u32", uint .u32), ("u64", uint .u64), ("u128", uint .u128), ("u256", uint .u256),
   ("boolean", boolean), ("byte_vec", byteVec), ("string", string)].lookup name

end Schema

end Signatory.Bcs
