/-
# Sections of a document

A document is cut before each of its heading lines. A section has the title of its
heading, starts with the heading line itself, and is trimmed; what comes before the
first heading is untitled. Blank sections are dropped.
-/

import ScriptDocs.Markdown.Heading

namespace ScriptDocs.Markdown

/-- A titled part of a document. -/
structure Section where
  title : Text
  content : Text
  deriving DecidableEq, Repr

/-- The title of what comes before the first heading. -/
def untitled : Text := "Untitled"

/-- A line without the carriage return at its end. -/
def withoutReturn (line : Text) : Text :=
  if line.getLast? = some '\r' then line.dropLast else line

/-- The lines of a document, which end in a line feed or in a carriage return and a line feed. -/
def documentLines (text : Text) : List Text :=
  let lines := Text.pieces '\n' text
  lines.dropLast.map withoutReturn ++ lines.getLast?.toList

/-- The section of some lines, given last line first, unless it is blank. -/
def sectionOf (title : Text) (reversedLines : List Text) : List Section :=
  let content := Text.trim (Text.join "\n" reversedLines.reverse)
  if content.isEmpty then [] else [⟨title, content⟩]

/-- The sections from the next line on; the lines of the present section are held last first. -/
def sectionsFrom (title : Text) (reversedLines : List Text) : List Text → List Section
  | [] => sectionOf title reversedLines
  | line :: lines =>
    match title? line with
    | some next => sectionOf title reversedLines ++ sectionsFrom next [line] lines
    | none => sectionsFrom title (line :: reversedLines) lines

/-- The sections of a document. -/
def sections (text : Text) : List Section :=
  sectionsFrom untitled [] (documentLines text)

end ScriptDocs.Markdown
