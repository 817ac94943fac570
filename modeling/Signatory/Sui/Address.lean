import Signatory.Data.Value
import Signatory.Failure
import Signatory.Text.Hex

/-!
# Sui addresses

An address is 32 bytes. Its text is `0x` and 64 lower-case digits; `parse` also takes
fewer digits, either letter case, no mark, and blanks around the whole.
-/

namespace Signatory.Sui

/-- How many bytes an address has. -/
def addressLength : Nat := 32

namespace Address

/-- The hexadecimal digits of an address text, without its mark. -/
def digits (s : String) : List Char :=
  let cs := Text.trim Text.isBlank s.toList
  if Text.hasHexMark cs then cs.drop 2 else cs

/-- The number that hexadecimal digits stand for. -/
def number (ds : List Char) : Nat :=
  Text.ofDigits 16 (ds.filterMap Text.hexValue?)

/-- The address of a text; `field` is the request field it came from. -/
def parse (field s : String) : Except Failure Bytes :=
  let ds := digits s
  if Text.isBlankText s then .error (.missing field)
  else if 1 ≤ ds.length ∧ ds.length ≤ 2 * addressLength ∧ ds.all Text.isHexDigit then
    .ok (Bytes.beBytes addressLength (number ds))
  else .error (.invalidText field s)

/-- The address of a value, which must be a text. -/
def ofValue (field : String) : Value → Except Failure Bytes
  | .text s => parse field s
  | _ => .error (.missing field)

/-- The text of an address. -/
def format (a : Bytes) : String :=
  "0x" ++ Text.Hex.encode a

end Address

end Signatory.Sui
