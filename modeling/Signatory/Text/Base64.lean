import Signatory.Bytes

/-!
# Bytes in base 64

Four characters for three bytes, the last group filled with `=`. `decode?` takes only
the alphabet and padding in its place. The unused low bits of the last character are
ignored, and so are padding characters after a whole group.
-/

namespace Signatory.Text.Base64

/-- The digit of a number below 64. -/
def digit (n : Nat) : Char :=
  if n < 26 then Char.ofNat (65 + n)
  else if n < 52 then Char.ofNat (71 + n)
  else if n < 62 then Char.ofNat (n - 4)
  else if n = 62 then '+'
  else '/'

/-- The value of a digit. -/
def value? (c : Char) : Option Nat :=
  let n := c.toNat
  if 65 ≤ n ∧ n ≤ 90 then some (n - 65)
  else if 97 ≤ n ∧ n ≤ 122 then some (n - 71)
  else if 48 ≤ n ∧ n ≤ 57 then some (n + 4)
  else if c = '+' then some 62
  else if c = '/' then some 63
  else none

def encodeChars : Bytes → List Char
  | [] => []
  | [a] => [digit (a.toNat / 4), digit (a.toNat % 4 * 16), '=', '=']
  | [a, b] =>
    [digit (a.toNat / 4), digit (a.toNat % 4 * 16 + b.toNat / 16), digit (b.toNat % 16 * 4), '=']
  | a :: b :: c :: rest =>
    digit (a.toNat / 4) :: digit (a.toNat % 4 * 16 + b.toNat / 16) ::
      digit (b.toNat % 16 * 4 + c.toNat / 64) :: digit (c.toNat % 64) :: encodeChars rest

def encode (bs : Bytes) : String :=
  String.ofList (encodeChars bs)

/-- The bytes of groups of four characters. -/
def groups? (cs : List Char) : Option Bytes :=
  if cs.all (· == '=') then some []
  else
    match cs with
    | [a, b, '=', '='] =>
      match value? a, value? b with
      | some a, some b => some [UInt8.ofNat (a * 4 + b / 16)]
      | _, _ => none
    | [a, b, c, '='] =>
      match value? a, value? b, value? c with
      | some a, some b, some c =>
        some [UInt8.ofNat (a * 4 + b / 16), UInt8.ofNat (b % 16 * 16 + c / 4)]
      | _, _, _ => none
    | a :: b :: c :: d :: rest =>
      match value? a, value? b, value? c, value? d, groups? rest with
      | some a, some b, some c, some d, some bs =>
        some (UInt8.ofNat (a * 4 + b / 16) :: UInt8.ofNat (b % 16 * 16 + c / 4) ::
          UInt8.ofNat (c % 4 * 64 + d) :: bs)
      | _, _, _, _, _ => none
    | _ => none

/-- The bytes of a text, which must not start with padding. -/
def decode? (cs : List Char) : Option Bytes :=
  if cs.head? = some '=' then none else groups? cs

end Signatory.Text.Base64
