/-
# White space

The characters that trimming removes and that separate words: the white space of
Unicode together with the four separators U+001C to U+001F. A zero-width space
and a byte order mark are no white space. The module also holds the trimming
operations, which every later module uses.
-/

import ScriptDocs.Text.Basic

namespace ScriptDocs.Text

/-- Whether a character is white space. -/
def isBlank (c : Char) : Bool :=
  let n := c.toNat
  (9 ≤ n && n ≤ 13) || (0x1C ≤ n && n ≤ 0x20) || n == 0x85 || n == 0xA0 || n == 0x1680
    || (0x2000 ≤ n && n ≤ 0x200A) || n == 0x2028 || n == 0x2029 || n == 0x202F
    || n == 0x205F || n == 0x3000

/-- Whether a character may stand around a numeral: white space other than the
separators U+001C to U+001F. -/
def isMargin (c : Char) : Bool :=
  isBlank c && !(0x1C ≤ c.toNat && c.toNat ≤ 0x1F)

/-- Whether a text holds no character other than white space. -/
def isBlankText (s : Text) : Bool :=
  s.all isBlank

/-- A text without the white space in front. -/
def trimLeft (s : Text) : Text :=
  s.dropWhile isBlank

/-- A text without the white space at its end. -/
def trimRight (s : Text) : Text :=
  dropRightWhile isBlank s

/-- A text without the white space at either end. -/
def trim (s : Text) : Text :=
  trimRight (trimLeft s)

end ScriptDocs.Text
