import Signatory.Text.CodePoints

/-!
# White space

Three sets of blank characters and the removal of blanks around a text.

1. `isBlank`: the white space of Unicode together with the four ASCII separators
   U+001C to U+001F. It surrounds names, addresses and numbers in requests.
2. `isSpace`: the white space of Unicode alone. It surrounds integers in models and
   settings.
3. `isAsciiBlank`: the six blanks of ASCII. They may stand between hex bytes.
-/

namespace Signatory.Text

/-- The white space of Unicode. -/
def spaceCodePoints : CodePoints :=
  [
    (0x9, 0xd), (0x20, 0x20), (0x85, 0x85), (0xa0, 0xa0), (0x1680, 0x1680), (0x2000, 0x200a),
    (0x2028, 0x2029), (0x202f, 0x202f), (0x205f, 0x205f), (0x3000, 0x3000)]

/-- Whether a character is white space. -/
def isSpace (c : Char) : Bool :=
  spaceCodePoints.holds c.toNat

/-- The white space of Unicode and the ASCII separators. -/
def isBlank (c : Char) : Bool :=
  isSpace c || (0x1c ≤ c.toNat && c.toNat ≤ 0x1f)

/-- Space, tab, line feed, vertical tab, form feed and carriage return. -/
def isAsciiBlank (c : Char) : Bool :=
  c.toNat == 0x20 || (0x9 ≤ c.toNat && c.toNat ≤ 0xd)

/-- A text without the characters of a set at its end. -/
def trimEnd (p : Char → Bool) (cs : List Char) : List Char :=
  (cs.reverse.dropWhile p).reverse

/-- A text without the characters of a set around it. -/
def trim (p : Char → Bool) (cs : List Char) : List Char :=
  trimEnd p (cs.dropWhile p)

/-- A text without the blanks around it. -/
def strip (s : String) : String :=
  String.ofList (trim isBlank s.toList)

/-- Whether a text has no character but blanks. -/
def isBlankText (s : String) : Bool :=
  s.toList.all isBlank

end Signatory.Text
