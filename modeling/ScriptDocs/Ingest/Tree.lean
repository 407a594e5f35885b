/-
# Documentation trees

A directory is a list of entries, each a file with its bytes or a directory. The
documentation files are those with the right ending; entries whose name starts with
a point and directories of installed modules are passed over. Files are listed in the
order of their names, directory by directory.
-/

import ScriptDocs.Text.Letter
import ScriptDocs.Text.Utf8

namespace ScriptDocs

/-- An entry of a directory. -/
inductive Entry
  | file (name : Text) (content : Bytes)
  | folder (name : Text) (entries : List Entry)

/-- A documentation file: the names on the way to it, and its bytes. -/
structure SourceFile where
  place : List Text
  content : Bytes
  deriving DecidableEq, Repr

namespace Entry

/-- The name of an entry. -/
def name : Entry → Text
  | .file name _ => name
  | .folder name _ => name

/-- The endings of documentation files. -/
def endings : List Text := [".md", ".mdx"]

/-- The directories that are passed over, beside hidden ones. -/
def skippedNames : List Text := ["node_modules"]

/-- Whether an entry is passed over for its name. -/
def isSkipped (name : Text) : Bool :=
  name.head? = some '.' || name ∈ skippedNames

/-- The ending of a file name: from its last point on, which is neither its first nor
its last character. -/
def endingOf (name : Text) : Text :=
  let behind := (name.reverse.takeWhile (· ≠ '.')).reverse
  if behind.isEmpty ∨ name.length < behind.length + 2 then [] else '.' :: behind

/-- Whether a file is documentation. -/
def isDocument (name : Text) : Bool :=
  Text.lower (endingOf name) ∈ endings

/-- A file below one more directory. -/
def inFolder (name : Text) (file : SourceFile) : SourceFile :=
  { file with place := name :: file.place }

/-- Whether the files of one entry come before those of another. -/
def inOrder (a b : Text × List SourceFile) : Bool :=
  Text.atMost a.1 b.1

mutual

/-- The documentation files of an entry, in order. -/
def documents : Entry → List SourceFile
  | .file name content => if isDocument name then [⟨[name], content⟩] else []
  | .folder name entries =>
    (((groups entries).mergeSort inOrder).flatMap Prod.snd).map (inFolder name)

/-- The documentation files of each entry that is not passed over, with its name. -/
def groups : List Entry → List (Text × List SourceFile)
  | [] => []
  | entry :: entries =>
    if isSkipped entry.name then groups entries
    else (entry.name, documents entry) :: groups entries

end

/-- The documentation files of a directory, in order. -/
def listing (entries : List Entry) : List SourceFile :=
  ((groups entries).mergeSort inOrder).flatMap Prod.snd

/-- An entry that holds one file at a place below it. -/
def holding (name : Text) (content : Bytes) : List Text → Entry
  | [] => .file name content
  | next :: place => .folder name [holding next content place]

/-- The entries of a directory with a file put at a place; a file that is there already
is replaced. -/
def put (content : Bytes) : List Text → List Entry → List Entry
  | [], entries => entries
  | name :: place, [] => [holding name content place]
  | name :: place, entry :: entries =>
    if entry.name = name then
      match place, entry with
      | next :: place, .folder _ inner =>
        .folder name (put content (next :: place) inner) :: entries
      | place, _ => holding name content place :: entries
    else entry :: put content (name :: place) entries

/-- The entries at a place below a directory, the entry itself for a file, nothing where
nothing is. -/
def at? : List Text → List Entry → Option (Entry ⊕ List Entry)
  | [], entries => some (.inr entries)
  | name :: place, entries =>
    match entries.find? fun entry => entry.name = name with
    | none => none
    | some (.folder _ inner) => at? place inner
    | some (.file name content) => if place.isEmpty then some (.inl (.file name content)) else none

end Entry

end ScriptDocs
