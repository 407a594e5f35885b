/-
# Texts in quotes

A text in quotes on one line. The quotes are single ones, unless the text holds such
and no double one; what is not shown as it is stands as an escape.
-/

import ScriptDocs.Text.Shown
import ScriptDocs.Text.Surrogate

namespace ScriptDocs.Text

/-- A character inside the given quotes. -/
def quotedChar (quote c : Char) : Text :=
  let n := c.toNat
  if c = quote ∨ c = '\\' then ['\\', c]
  else if c = '\n' then ['\\', 'n']
  else if c = '\r' then ['\\', 'r']
  else if c = '\t' then ['\\', 't']
  else if !isHidden c then [c]
  else
    match surrogate? c with
    | some unit => '\\' :: 'u' :: padded 16 4 unit
    | none =>
      if n < 0x100 then '\\' :: 'x' :: padded 16 2 n
      else if n < 0x10000 then '\\' :: 'u' :: padded 16 4 n
      else '\\' :: 'U' :: padded 16 8 n

/-- A text in quotes. -/
def quoted (s : Text) : Text :=
  let quote := if '\'' ∈ s ∧ '"' ∉ s then '"' else '\''
  quote :: s.flatMap (quotedChar quote) ++ [quote]

end ScriptDocs.Text
