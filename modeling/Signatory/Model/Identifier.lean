import Signatory.Model.Checked
import Signatory.Text.Base58
import Signatory.Text.Hex

/-!
# Identifiers

The id or digest of an object as bytes, a list of byte values, hexadecimal digits, or for
digests a base 58 text. With the mark `0x` a text is hexadecimal in either case, and an
odd number of digits has a zero in front.
-/

namespace Signatory.Identifier

/-- The value of a byte of a list. -/
def byte? : Value → Option UInt8
  | .int n => if 0 ≤ n ∧ n < 256 then some (UInt8.ofNat n.toNat) else none
  | .bool b => some (if b then 1 else 0)
  | _ => none

def refuse {α : Type} (reason : String) : Checked α :=
  .refuse (.refused reason)

/-- The bytes of digits behind the mark. -/
def markedDigits? (ds : List Char) : Option Bytes :=
  Text.Hex.decode? (if ds.length % 2 = 1 then '0' :: ds else ds)

/-- The bytes of a text; `plain` says how a text without the mark is read. -/
def ofText (form : String) (plain : List Char → Option Bytes) (s : String) : Checked Bytes :=
  let cs := Text.trim Text.isBlank s.toList
  let (form, bytes) :=
    if Text.hasHexMark cs then ("hex", markedDigits? (cs.drop 2)) else (form, plain cs)
  match bytes with
  | some bs => .valid bs
  | none => refuse ("Invalid " ++ form ++ " identifier: " ++ Text.quoted s)

def check (ofText : String → Checked Bytes) : Value → Checked Bytes
  | .bytes bs => .valid bs
  | .list vs =>
    match vs.mapM byte? with
    | some bs => .valid bs
    | none => refuse ("Invalid byte list: " ++ Failure.cause)
  | .text s => ofText s
  | v => refuse ("Expected bytes or text, got " ++ v.typeName)

/-- The id of an object. -/
def id : Value → Checked Bytes :=
  check (ofText "hex" Text.Hex.decode?)

/-- The digest of an object. -/
def digest : Value → Checked Bytes :=
  check (ofText "base58" Text.Base58.decode?)

end Signatory.Identifier
