/-
# Headings

A heading is at most three blanks, one to six number signs, and at least one blank
behind them. The same marks are looked for on a single line and at the line starts of
a whole document, where the blanks may be line ends.
-/

import ScriptDocs.Text.Blank
import ScriptDocs.Text.Letter

namespace ScriptDocs.Markdown

/-- What follows the number signs of a heading in front of a text; it starts with a blank. -/
def afterMarks? (s : Text) : Option Text :=
  let indent := s.takeWhile Text.isBlank
  let marked := s.dropWhile Text.isBlank
  let marks := marked.takeWhile (· = '#')
  let rest := marked.dropWhile (· = '#')
  if indent.length ≤ 3 ∧ 1 ≤ marks.length ∧ marks.length ≤ 6 ∧ rest.head?.any Text.isBlank then
    some rest
  else none

/-- Whether a text starts with the marks of a heading. -/
def isHeading (s : Text) : Bool :=
  (afterMarks? s).isSome

/-- Whether a text starts with a heading whose words begin with `title`, in any letter case. -/
def isHeadingOf (title s : Text) : Bool :=
  match afterMarks? s with
  | some rest => (Text.afterFrontAnyCase? title (Text.trimLeft rest)).isSome
  | none => false

/-- Whether some line after the first satisfies a test on the text from there on. -/
def atLaterLine (test : Text → Bool) : Text → Bool
  | [] => false
  | c :: s => (c == '\n' && test s) || atLaterLine test s

/-- Whether the text from some line start on satisfies a test. -/
def atSomeLine (test : Text → Bool) (s : Text) : Bool :=
  test s || atLaterLine test s

/-- The title of a heading line: its words without the blanks around them. A
heading of blanks alone has two of them at least, and the empty title. -/
def title? (line : Text) : Option Text :=
  match afterMarks? line with
  | some rest => if 2 ≤ rest.length then some (Text.trim rest) else none
  | none => none

end ScriptDocs.Markdown
