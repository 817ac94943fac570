import Signatory.Bytes
import Signatory.Text.Blank

/-!
# Bytes in base 58

A byte string as one large number in base 58, each leading zero byte as a leading `1`.
-/

namespace Signatory.Text.Base58

/-- The digits and letters without `0`, `O`, `I` and `l`. -/
def alphabet : List Char :=
  "123456789ABCDEFGHJKLMNPQRSTUVWXYZabcdefghijkmnopqrstuvwxyz".toList

def value? (c : Char) : Option Nat :=
  alphabet.idxOf? c

def digit (n : Nat) : Char :=
  alphabet.getD n '1'

/-- The digits of a number, least significant first; none for zero. -/
def digitsOf (n : Nat) : List Char :=
  if n = 0 then [] else digit (n % 58) :: digitsOf (n / 58)
termination_by n

def encode (bs : Bytes) : String :=
  String.ofList
    (List.replicate (bs.takeWhile (· == 0)).length '1' ++ (digitsOf (Bytes.beNat bs)).reverse)

/-- The bytes of a text; blanks of ASCII at its end are dropped. -/
def decode? (cs : List Char) : Option Bytes := do
  let cs := trimEnd isAsciiBlank cs
  let values ← cs.mapM value?
  let n := values.foldl (fun n d => n * 58 + d) 0
  some (List.replicate (cs.takeWhile (· == '1')).length 0 ++ Bytes.minimal n)

end Signatory.Text.Base58
