/-
# Writing JSON

The compact form of a value in ASCII: no white space, and every character outside
the printable ones of ASCII as an escape, a surrogate that stands alone included. A
double is written with nine places.
-/

import ScriptDocs.Json.Basic
import ScriptDocs.Text.Surrogate

namespace ScriptDocs.Json

/-- A 16-bit unit as an escape. -/
def unitEscape (n : Nat) : Text :=
  '\\' :: 'u' :: Text.padded 16 4 n

/-- A character inside quotes. -/
def writeChar (c : Char) : Text :=
  let n := c.toNat
  if c = '"' then ['\\', '"']
  else if c = '\\' then ['\\', '\\']
  else if 0x20 ≤ n && n < 0x7F then [c]
  else if n < 0x10000 then unitEscape n
  else if let some unit := Text.surrogate? c then unitEscape unit
  else unitEscape (0xD800 + (n - 0x10000) / 0x400) ++ unitEscape (0xDC00 + (n - 0x10000) % 0x400)

/-- A text in quotes. -/
def writeQuoted (s : Text) : Text :=
  '"' :: s.flatMap writeChar ++ ['"']

mutual

/-- A value in its compact form. -/
def write : Json → Text
  | .null => "null"
  | .boolean value => if value then "true" else "false"
  | .integer value => Text.ofInt value
  | .decimal value => value.fixedText 9
  | .text value => writeQuoted value
  | .list items => '[' :: writeItems items
  | .object fields => '{' :: writeFields fields

/-- The items of a list up to its closing bracket. -/
def writeItems : List Json → Text
  | [] => [']']
  | [item] => write item ++ [']']
  | item :: items => write item ++ ',' :: writeItems items

/-- The fields of an object up to its closing brace. -/
def writeFields : List (Text × Json) → Text
  | [] => ['}']
  | [(name, value)] => writeQuoted name ++ ':' :: write value ++ ['}']
  | (name, value) :: fields => writeQuoted name ++ ':' :: write value ++ ',' :: writeFields fields

end

end ScriptDocs.Json
