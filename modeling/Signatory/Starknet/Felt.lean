import Signatory.Data.Value
import Signatory.Failure
import Signatory.Text.Hex

/-!
# Field elements

Starknet's numbers are below the prime of its field. Requests hold them as text, in
decimal or in hexadecimal behind `0x`; outputs hold them as 64 hexadecimal digits.
-/

namespace Signatory.Starknet

/-- The prime of the field. -/
def fieldPrime : Nat := (1 <<< 251) + (17 <<< 192) + 1

namespace Felt

/-- The number of a text without blanks around it, if it is one. -/
def number? (cs : List Char) : Option Nat :=
  if Text.hasHexMark cs then
    let ds := cs.drop 2
    if !ds.isEmpty && ds.all Text.isHexDigit then
      some (Text.ofDigits 16 (ds.filterMap Text.hexValue?))
    else none
  else if !cs.isEmpty && cs.all Char.isDigit then
    some (Text.ofDigits 10 (cs.filterMap Text.decimalValue?))
  else none

/-- Whether a decimal numeral has more digits than one may have. -/
def isTooLong (cs : List Char) : Bool :=
  cs.all Char.isDigit && Text.digitLimit < cs.length

/-- The field element of a text; `field` is the request field it came from. -/
def parse (field s : String) : Except Failure Nat :=
  let cs := Text.trim Text.isBlank s.toList
  if cs.isEmpty then .error (.missing field)
  else if isTooLong cs then .error .tooManyDigits
  else
    match number? cs with
    | none => .error (.notANumber field s)
    | some n => if n < fieldPrime then .ok n else .error (.aboveFieldPrime field)

/-- The field element of a value, which must be a text. -/
def ofValue (field : String) : Value → Except Failure Nat
  | .text s => parse field s
  | _ => .error (.missing field)

/-- A number as 64 hexadecimal digits behind `0x`. -/
def format (n : Int) : Except Failure String :=
  if 0 ≤ n ∧ n < Bytes.capacity 32 then .ok ("0x" ++ Text.Hex.encode (Bytes.beBytes 32 n.toNat))
  else .error .numberOutOfRange

end Felt

/-! ## Networks and nonces -/

/-- The number of an ASCII text. -/
def shortText (s : String) : Nat :=
  Bytes.beNat (Bytes.ascii s)

/-- The networks known by name. -/
def networks : List String := ["SN_MAIN", "SN_SEPOLIA", "SN_GOERLI"]

/-- The chain id of a text: the name of a network in any letter case, or a number. -/
def chainId (s : String) : Except Failure Nat :=
  let name := Text.upper (Text.strip s)
  if networks.contains name then .ok (shortText name) else Felt.parse "chain_id" s

/-- A nonce within its range. -/
def checkNonce (n : Int) : Except Failure Nat :=
  if n < 0 then .error .negativeNonce
  else if n < Bytes.capacity 8 then .ok n.toNat
  else .error .nonceTooLarge

end Signatory.Starknet
