/-
# Percent signs

In addresses a percent sign and two hexadecimal digits spell a byte, and the bytes
of an address spell its text in UTF-8. Which characters are spelled so depends on
the part of the address; bytes that are spelled already stay as they are. In a list of
names and values a plus sign spells a space.
-/

import ScriptDocs.Text.Utf8

namespace ScriptDocs.Text

/-- A byte that two hexadecimal digits spell. -/
def hexByte? (high low : Char) : Option UInt8 := do
  return ((← hexValue? high) * 16 + (← hexValue? low)).toUInt8

/-- The bytes of a text in which percent signs spell bytes. -/
def unescapedBytes : Text → Bytes
  | '%' :: high :: low :: s =>
    match Text.hexByte? high low with
    | some byte => byte :: unescapedBytes s
    | none => Text.charBytes '%' ++ unescapedBytes (high :: low :: s)
  | c :: s => Text.charBytes c ++ unescapedBytes s
  | [] => []

/-- A text in which percent signs spell bytes; bytes that spell no text are replaced. -/
def unescaped (s : Text) : Text :=
  (Text.unescapedBytes s).replaced

/-- A byte behind a percent sign. -/
def escapedByte (byte : UInt8) : Text :=
  '%' :: (padded 16 2 byte.toNat).map Char.toUpper

/-- A character whose bytes stand behind percent signs. -/
def escapedChar (c : Char) : Text :=
  (charBytes c).flatMap escapedByte

/-- A text whose characters are escaped unless they are plain ones. -/
def escaped (isPlain : Char → Bool) : Text → Text
  | '%' :: high :: low :: s =>
    if (hexByte? high low).isSome then '%' :: high :: low :: escaped isPlain s
    else
      (if isPlain '%' then ['%'] else escapedChar '%') ++ escaped isPlain (high :: low :: s)
  | c :: s => (if isPlain c then [c] else escapedChar c) ++ escaped isPlain s
  | [] => []

/-- Whether a character is never escaped. -/
def isUnreserved (c : Char) : Bool :=
  c.isAlphanum || c == '-' || c == '.' || c == '_' || c == '~'

/-- A name or a value in a list of such. -/
def formWord (s : Text) : Text :=
  s.flatMap fun c => if c = ' ' then ['+'] else if isUnreserved c then [c] else escapedChar c

/-- A list of names and values. -/
def formText (fields : List (Text × Text)) : Text :=
  join "&" (fields.map fun (name, value) => formWord name ++ '=' :: formWord value)

end ScriptDocs.Text
