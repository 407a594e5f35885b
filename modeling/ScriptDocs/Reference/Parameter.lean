/-
# Parameters of a function

Parameters are read from a table or a list below a heading, or, when the
documentation has neither, from the brackets of the syntax line. A header row names
the columns of a table; without one the order is name, type, description, required.
-/

import ScriptDocs.Markdown.Heading
import ScriptDocs.Text.Scan
import ScriptDocs.Text.Word

namespace ScriptDocs.Reference

/-- A documented parameter. -/
structure Parameter where
  name : Text
  description : Option Text := none
  type : Option Text := none
  required : Option Bool := none
  deriving DecidableEq, Repr

/-- A text, or nothing when it is empty. -/
def nonempty? (s : Text) : Option Text :=
  if s.isEmpty then none else some s

/-- A line break tag, which reads as a space. -/
def breakTag : Text.Pattern Text :=
  Text.reading [' '] fun s => do
    let rest ← Text.afterFrontAnyCase? "<br" s
    match Text.trimLeft rest with
    | '>' :: rest => some rest
    | '/' :: '>' :: rest => some rest
    | _ => none

/-- A cell without backticks, line break tags and outer blanks. -/
def cleanCell (cell : Text) : Text :=
  Text.trim (Text.replaceMatches breakTag (cell.filter (· ≠ '`')))

/-- The places of the columns of a table. -/
structure Columns where
  name : Option Nat
  type : Option Nat
  description : Option Nat
  required : Option Nat

/-- The order of the columns without a header row. -/
def Columns.usual : Columns := ⟨some 0, some 1, some 2, some 3⟩

/-- The columns with one more header cell read. -/
def Columns.withHeader (columns : Columns) (place : Nat) (cell : Text) : Columns :=
  let small := Text.lower cell
  if Text.contains "field" small || Text.contains "name" small then { columns with name := place }
  else if Text.contains "type" small then { columns with type := place }
  else if Text.contains "description" small then { columns with description := place }
  else if Text.contains "required" small then { columns with required := place }
  else columns

/-- The columns that header cells name, from the given place on. -/
def Columns.readHeader (columns : Columns) (place : Nat) : List Text → Columns
  | [] => columns
  | cell :: cells => (columns.withHeader place cell).readHeader (place + 1) cells

/-- The columns of a header row. -/
def Columns.ofHeader (cells : List Text) : Columns :=
  Columns.readHeader ⟨none, none, none, none⟩ 0 cells

/-- The cell in a column, empty when the row is too short or there is no such column. -/
def cellAt (cells : List Text) (column : Option Nat) : Text :=
  (column.bind fun place => cells[place]?).getD []

/-- The parameter of a table row, unless its name is blank. -/
def Parameter.ofRow? (columns : Columns) (cells : List Text) : Option Parameter :=
  let name := cleanCell (cellAt cells columns.name)
  if name.isEmpty then none
  else
    let required := cellAt cells columns.required
    some {
      name
      description := nonempty? (cleanCell (cellAt cells columns.description))
      type := nonempty? (cleanCell (cellAt cells columns.type))
      required := some (["true", "yes", "required"].any fun word =>
        Text.containsAnyCase word.toList required) }

/-- Whether a cell belongs to the row of dashes below the header. -/
def isRule (cell : Text) : Bool :=
  Text.startsWith "---" (match cell with | ':' :: rest => rest | _ => cell)

/-- Whether a row may be a header: some cell mentions a field or a name. -/
def looksLikeHeader (cells : List Text) : Bool :=
  cells.any fun cell => Text.containsAnyCase "field" cell || Text.containsAnyCase "name" cell

/-- The cells of a table row. -/
def rowCells (line : Text) : List Text :=
  ((Text.pieces '|' line).drop 1).dropLast.map Text.trim

/-- Whether a character may stand behind the first one of a listed name. -/
def isListedChar (c : Char) : Bool :=
  Text.isWord c || c == '-'

/-- The description behind a listed name: a colon, a bar or a dash, and some text on
one line. -/
def listedDescription? (s : Text) : Option Text :=
  match Text.trimLeft s with
  | c :: rest =>
    let text := Text.trimLeft rest
    if (c = ':' ∨ c = '|' ∨ c = '-') ∧ text ≠ [] ∧ '\n' ∉ text then some (Text.trim text) else none
  | [] => none

/-- The longest name in front of a text that a description follows. -/
def listedName? : Text → Option (Text × Text)
  | [] => none
  | c :: s =>
    if isListedChar c then
      match listedName? s with
      | some (name, description) => some (c :: name, description)
      | none => (listedDescription? s).map fun description => ([c], description)
    else none

/-- The parameter of a list item, which is trimmed. -/
def Parameter.ofItem? (item : Text) : Option Parameter :=
  match item with
  | mark :: s =>
    if mark = '*' ∨ mark = '-' then
      let s := Text.trimLeft s
      if Text.beginsWithWord s then
        (listedName? s).map fun (name, description) => { name, description := some description }
      else none
    else none
  | [] => none

/-- The parameters of the lines up to the next heading. The columns are the usual
ones until a header row is read, which `header` tells. -/
def parametersFrom (columns : Columns) (header : Bool) : List Text → List Parameter
  | [] => []
  | line :: lines =>
    if Markdown.isHeading line then []
    else
      let item := Text.trim line
      if item.isEmpty then parametersFrom columns header lines
      else if item.head? = some '|' then
        let cells := rowCells line
        if cells.head?.any isRule then parametersFrom columns header lines
        else if !header && looksLikeHeader cells then
          parametersFrom (Columns.ofHeader cells) true lines
        else (Parameter.ofRow? columns cells).toList ++ parametersFrom columns header lines
      else (Parameter.ofItem? item).toList ++ parametersFrom columns header lines

/-- The parameters that the lines below a heading document. -/
def parametersBelow (lines : List Text) : List Parameter :=
  parametersFrom Columns.usual false lines

/-- The text between the first opening bracket and the last closing one behind it. -/
def bracketed? (syntaxLine : Text) : Option Text :=
  match syntaxLine.dropWhile (· ≠ '[') with
  | _ :: inner =>
    match inner.reverse.dropWhile (· ≠ ']') with
    | _ :: reversed => some reversed.reverse
    | [] => none
  | [] => none

/-- Pieces without the blanks next to the separators between them. -/
def trimInner : List Text → List Text
  | [] => []
  | [piece] => [piece]
  | piece :: next :: rest => Text.trimRight piece :: trimInner (Text.trimLeft next :: rest)
termination_by pieces => pieces.length

/-- The marks around a name that are no part of it. -/
def nameMark : Text.Pattern Text
  | '<' :: _ | '>' :: _ => some ([], 1)
  | '{' :: '}' :: _ | '[' :: ']' :: _ => some ([], 2)
  | _ => none

/-- The parameters named in the brackets of a syntax line. One that is left without
a name is numbered. -/
def parametersOfSyntax (syntaxLine : Text) : List Parameter :=
  match bracketed? syntaxLine with
  | none => []
  | some inner =>
    let parts := (trimInner (Text.pieces ';' inner)).filter (!·.isEmpty)
    (parts.zipIdx 1).map fun (part, number) =>
      let name := Text.trim (Text.replaceMatches nameMark part)
      { name := if name.isEmpty then "param" ++ Text.ofNat number else name }

end ScriptDocs.Reference
