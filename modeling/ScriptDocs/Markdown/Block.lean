/-
# Fenced blocks of a document

A fenced block opens with three backticks, a tag of small letters or none, and a line
feed, and ends at the next three backticks.
-/

import ScriptDocs.Text.Blank
import ScriptDocs.Text.Scan

namespace ScriptDocs.Markdown

/-- Whether a character may stand in the tag of a fenced block. -/
def isTagChar (c : Char) : Bool :=
  'a' ≤ c && c ≤ 'z'

/-- The body of a fenced block in front, and the length of the whole block. -/
def blockBody : Text.Pattern Text := fun s => do
  let opened ← Text.afterFront? "```" s
  match opened.dropWhile isTagChar with
  | '\n' :: inner =>
    let (body, rest) ← Text.cut? "```" inner
    return (body, s.length - rest.length)
  | _ => none

/-- The trimmed bodies of the fenced blocks of a text. -/
def blockBodies (text : Text) : List Text :=
  (Text.allMatches blockBody text).map Text.trim

/-- A fenced block in front, fences included. -/
def wholeBlock : Text.Pattern Text := fun s =>
  (blockBody s).map fun (_, length) => (s.take length, length)

end ScriptDocs.Markdown
