/-
# The page of a function

What is known about one function is gathered from the passages that document it,
best passage first. Each field is filled by the first passage that yields it, and
later passages fill only what is still missing. Whatever the single passages leave
open is looked for once more in their joined text, where a table or an example may
be cut off from its heading.
-/

import ScriptDocs.Markdown.Block
import ScriptDocs.Passage
import ScriptDocs.Reference.Name
import ScriptDocs.Reference.Parameter

namespace ScriptDocs.Reference

/-- What is known about a function. The list of parameters is empty when none are known. -/
structure Page where
  function : Text
  syntaxLine : Option Text := none
  description : Option Text := none
  parameters : List Parameter := []
  examples : List Text := []
  sources : List Text := []
  confidence : Binary64 := .zero
  deriving DecidableEq, Repr

/-- The most characters of a description. -/
def descriptionLimit : Nat := 600

/-- The most examples of a page. -/
def exampleLimit : Nat := 3

/-- Whether no parameter is described. -/
def Page.lacksDetails (page : Page) : Bool :=
  page.parameters.all fun parameter => (parameter.description.getD []).isEmpty

/-- The lines of a passage. -/
def linesOf (content : Text) : List Text :=
  Text.pieces '\n' content

/-- The first line that satisfies a test and the lines below it. -/
def lineWith? (test : Text → Bool) : List Text → Option (Text × List Text)
  | [] => none
  | line :: lines => if test line then some (line, lines) else lineWith? test lines

/-- The lines up to the next heading, trimmed and without blank ones; a blank line
ends them where `stopAtBlank` says so. -/
def proseLines (stopAtBlank : Bool) : List Text → List Text
  | [] => []
  | line :: lines =>
    if Markdown.isHeading line then []
    else
      let words := Text.trim line
      if words.isEmpty then (if stopAtBlank then [] else proseLines stopAtBlank lines)
      else words :: proseLines stopAtBlank lines

/-- Lines joined to a description, unless there are none. -/
def describing? (lines : List Text) : Option Text :=
  if lines.isEmpty then none else some ((Text.join " " lines).take descriptionLimit)

/-- Whether a character ends a line. -/
def isLineEnd (c : Char) : Bool :=
  c == '\n' || c == '\r'

/-- A call of a function in front of a text, with the rest of its line. -/
def callLine (sigiled : Text) : Text.Pattern Text := fun s => do
  let rest ← Text.afterFrontAnyCase? sigiled s
  match Text.trimLeft rest with
  | '[' :: inner =>
    let behind := inner.dropWhile fun c => !isLineEnd c
    if behind.length = inner.length then none
    else
      let length := s.length - behind.length
      return (s.take length, length)
  | _ => none

/-- A call of any function in front of a text. -/
def anyCall : Text.Pattern Unit := fun s =>
  match s with
  | '$' :: c :: rest =>
    if c.isAlpha then
      match Text.trimLeft (rest.dropWhile Text.isWord) with
      | '[' :: _ => some ((), 2)
      | _ => none
    else none
  | _ => none

/-- The part of a text up to the first closing dashes of its front matter. -/
def frontMatter? (content : Text) : Option Text := do
  let inner ← Text.afterFront? "---\n" (Text.trimLeft content)
  let (body, _) ← Text.cut? "\n---" inner
  return body

/-- What follows the first line start with the given name in front. -/
def afterLineStart? (name : Text) : Bool → Text → Option Text
  | _, [] => none
  | atStart, c :: s =>
    match (if atStart then Text.afterFrontAnyCase? name (c :: s) else none) with
    | some rest =>
      if (Text.trimLeft rest).isEmpty then afterLineStart? name (c == '\n') s else some rest
    | none => afterLineStart? name (c == '\n') s

/-- Whether a character is a quotation mark. -/
def isQuote (c : Char) : Bool :=
  c == '"' || c == '\''

/-- The description in the front matter of a document. -/
def frontMatterDescription? (content : Text) : Option Text := do
  let body ← frontMatter? content
  let rest ← afterLineStart? "description:" true body
  let value := (Text.trimLeft rest).takeWhile (· ≠ '\n')
  nonempty? ((Text.dropEnds isQuote (Text.trim value)).take descriptionLimit)

/-- The syntax of a function: a call in the text, or the first line with the name below
a heading for it. -/
def syntaxIn? (sigiled content : Text) : Option Text :=
  match Text.firstMatch? (callLine sigiled) content with
  | some line => some (Text.trim line)
  | none =>
    if Markdown.atSomeLine (Markdown.isHeadingOf "Syntax") content then
      let small := Text.lower sigiled
      (lineWith? (fun line => Text.startsWith small (Text.lower (Text.trim line)))
        (linesOf content)).map fun (line, _) => Text.trim line
    else none

/-- The description below a heading for it. -/
def headedDescription? (content : Text) : Option Text := do
  let (_, below) ← lineWith? (Markdown.isHeadingOf "Description") (linesOf content)
  describing? (proseLines false below)

/-- The description around the first mention of a function: the line itself, or the
lines below it when the line is a call. -/
def mentionedDescription? (sigiled content : Text) : Option Text := do
  let small := Text.lower sigiled
  let mentions (line : Text) : Bool := Text.contains small (Text.lower line)
  let (line, below) ← lineWith? mentions (linesOf content)
  let words := Text.trim (line.filter (· ≠ '`'))
  if words ≠ [] ∧ !Text.hasMatch anyCall words then return words.take descriptionLimit
  else describing? (proseLines true below)

/-- The parameters below the first heading for them. -/
def headedParameters (content : Text) : List Parameter :=
  match lineWith? (Markdown.isHeadingOf "Parameters") (linesOf content) with
  | some (_, below) => parametersBelow below
  | none => []

/-- The word that marks examples, in front of a text and followed by no word character. -/
def startsWithExample (s : Text) : Bool :=
  match Text.afterFrontAnyCase? "Example" s with
  | none => false
  | some rest =>
    !Text.beginsWithWord rest
      || (Text.afterFrontAnyCase? "s" rest).any fun rest => !Text.beginsWithWord rest

/-- Whether a text speaks of examples; `within` says that a word character stands before it. -/
def speaksOfExamples (within : Bool) : Text → Bool
  | [] => false
  | c :: s => (!within && startsWithExample (c :: s)) || speaksOfExamples (Text.isWord c) s

/-- The fenced blocks of a passage whose section is about examples. -/
def titledExamples (passage : Passage) : List Text :=
  if passage.sectionTitle.any (speaksOfExamples false) then Markdown.blockBodies passage.content
  else []

/-- A page after one more passage. -/
def Page.absorb (page : Page) (passage : Passage) : Page :=
  let content := passage.content
  let syntaxLine := page.syntaxLine <|> syntaxIn? page.function content
  let parameters := if page.parameters.isEmpty then headedParameters content else page.parameters
  { page with
    sources := page.sources ++ (nonempty? (shownPath passage.sourcePath)).toList
    syntaxLine
    description := page.description <|> frontMatterDescription? content
      <|> headedDescription? content <|> mentionedDescription? page.function content
    parameters := if parameters.isEmpty then (syntaxLine.map parametersOfSyntax).getD []
      else parameters
    examples := (page.examples ++ titledExamples passage).take exampleLimit }

/-- The parts of a text between the line feeds that stand before a heading. -/
def headedParts : Text → List Text
  | [] => [[]]
  | c :: s =>
    if c = '\n' ∧ Markdown.isHeading s then [] :: headedParts s
    else Text.ontoFirst c (headedParts s)

/-- The blocks of a part whose first line is a heading for examples. -/
def headedExamples (part : Text) : List Text :=
  if Markdown.isHeadingOf "Example" (part.takeWhile (· ≠ '\n')) then Markdown.blockBodies part
  else []

/-- The first headed examples of a text, each once. -/
def firstExamples (text : Text) : List Text :=
  let found := ((headedParts text).map headedExamples).find? (!·.isEmpty)
  distinct ((found.getD []).take exampleLimit)

/-- The parameters of a page completed from the joined text of its passages. -/
def Page.withDetails (page : Page) (joined : Text) : Page :=
  if page.lacksDetails then
    let parameters := headedParameters joined
    if parameters.isEmpty then page else { page with parameters }
  else page

/-- The examples of a page completed from the joined text of its passages. -/
def Page.withExamples (page : Page) (joined : Text) : Page :=
  if page.examples.isEmpty then { page with examples := firstExamples joined } else page

/-- The page of a function, whose name has no sigil, from the passages about it. -/
def Page.ofPassages (name : Text) (passages : List Passage) : Page :=
  let gathered := passages.foldl Page.absorb { function := '$' :: name }
  let joined := Text.join "\n\n" (passages.map Passage.content)
  let page := { gathered with sources := distinct gathered.sources }
  (page.withDetails joined).withExamples joined

end ScriptDocs.Reference
