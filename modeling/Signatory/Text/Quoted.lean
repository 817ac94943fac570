import Signatory.Bytes
import Signatory.Text.Numeral
import Signatory.Text.Printable

/-!
# Quoted texts

Texts and byte strings as literals in messages. Single quotes are used unless the text
holds one and no double quote. Backslashes, the quote in use and unprintable characters
are escaped.
-/

namespace Signatory.Text

/-- Hexadecimal digits filled with zeros to a width. -/
def paddedHex (width n : Nat) : String :=
  let ds := Nat.toDigits 16 n
  String.ofList (List.replicate (width - ds.length) '0' ++ ds)

/-- The quote that a literal is written in. -/
def quoteFor (cs : List Char) : Char :=
  if cs.contains '\x27' && !cs.contains '\x22' then '\x22' else '\x27'

/-- The escape of a character that has one by name or by its role. -/
def namedEscape? (quote c : Char) : Option String :=
  if c = quote ∨ c = '\x5c' then some (String.ofList ['\x5c', c])
  else if c = '\n' then some "\\n"
  else if c = '\r' then some "\\r"
  else if c = '\t' then some "\\t"
  else none

def escapeChar (quote c : Char) : String :=
  match namedEscape? quote c with
  | some e => e
  | none =>
    let n := c.toNat
    if isPrintable c then c.toString
    else if n < 0x100 then "\\x" ++ paddedHex 2 n
    else if n < 0x10000 then "\\u" ++ paddedHex 4 n
    else "\\U" ++ paddedHex 8 n

/-- A text as a literal. -/
def quoted (s : String) : String :=
  let quote := quoteFor s.toList
  quote.toString ++ String.join (s.toList.map (escapeChar quote)) ++ quote.toString

def escapeByte (quote : Char) (b : UInt8) : String :=
  let c := Char.ofNat b.toNat
  match namedEscape? quote c with
  | some e => e
  | none => if 32 ≤ b ∧ b < 127 then c.toString else "\\x" ++ paddedHex 2 b.toNat

/-- A byte string as a literal: `b` and its ASCII characters in quotes. -/
def quotedBytes (bs : Bytes) : String :=
  let quote := quoteFor (bs.map fun b => Char.ofNat b.toNat)
  "b" ++ quote.toString ++ String.join (bs.map (escapeByte quote)) ++ quote.toString

end Signatory.Text
