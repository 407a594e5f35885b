/-
# Code fences around a snippet

Callers often paste a snippet with the fences of the chat it came from. A fenced
block opens with three backticks and an optional language tag in any letter case,
and ends at the next three backticks; the white space behind the opening belongs
to neither. Stripping keeps the body of every block and trims the whole.
-/

import ScriptDocs.Text.Blank
import ScriptDocs.Text.Letter
import ScriptDocs.Text.Scan

namespace ScriptDocs.Snippet

/-- The mark that opens and closes a block. -/
def fenceMark : Text := "```"

/-- The language tags that an opening fence may carry. -/
def fenceTags : List Text := ["aoi", "javascript", "js"]

/-- A text without the language tag in front, if there is one. -/
def withoutTag (s : Text) : Text :=
  (fenceTags.findSome? fun tag => Text.afterFrontAnyCase? tag s).getD s

/-- The body of the block in front. -/
def fencedBody : Text.Pattern Text := fun s => do
  let opened ← Text.afterFront? fenceMark s
  let (body, rest) ← Text.cut? fenceMark (Text.trimLeft (withoutTag opened))
  return (body, s.length - rest.length)

/-- A snippet without its fences and without white space at its ends. -/
def stripFences (code : Text) : Text :=
  Text.trim (Text.replaceMatches fencedBody (Text.trim code))

/-- The block in front, fences included. -/
def fencedBlock : Text.Pattern Text := fun s => do
  let opened ← Text.afterFront? fenceMark s
  let (body, _) ← Text.cut? fenceMark opened
  let block := fenceMark ++ body ++ fenceMark
  return (block, block.length)

end ScriptDocs.Snippet
