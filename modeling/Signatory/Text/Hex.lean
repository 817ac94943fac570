import Signatory.Bytes
import Signatory.Text.Blank
import Signatory.Text.Digit

/-!
# Bytes in hexadecimal

Two digits for each byte. `decode?` allows the blanks of ASCII between bytes, never
inside one.
-/

namespace Signatory.Text.Hex

def digit (n : Nat) : Char :=
  Nat.digitChar (n % 16)

def encodeChars (bs : Bytes) : List Char :=
  bs.flatMap fun b => [digit (b.toNat / 16), digit b.toNat]

/-- Two lower-case digits for each byte. -/
def encode (bs : Bytes) : String :=
  String.ofList (encodeChars bs)

/-- The bytes that pairs of digits stand for, in either letter case. -/
def decode? : List Char → Option Bytes
  | [] => some []
  | [c] => if isAsciiBlank c then some [] else none
  | c :: d :: cs =>
    if isAsciiBlank c then decode? (d :: cs)
    else
      match hexValue? c, hexValue? d, decode? cs with
      | some h, some l, some bs => some (UInt8.ofNat (16 * h + l) :: bs)
      | _, _, _ => none

end Signatory.Text.Hex
