/-
# Paths of files

A path is read name by name from the root or from a working directory. A directory is
the list of the names on the way to it, innermost first, so that a step into it adds a
name in front and a step out of it takes one away.
-/

import ScriptDocs.Text.Utf8

namespace ScriptDocs.Path

/-- The names in a path that count. -/
def parts (path : Text) : List Text :=
  (Text.pieces '/' path).filter fun part => part ≠ [] ∧ part ≠ ['.']

/-- A directory after one more step from it. -/
def step (place : List Text) (part : Text) : List Text :=
  if part = ['.', '.'] then place.drop 1 else part :: place

/-- The directories that steps lead through. -/
def places (place : List Text) : List Text → List (List Text)
  | [] => []
  | part :: parts => step place part :: places (step place part) parts

/-- The directory that a path starts from: the root, or the working directory. -/
def startOf (home : List Text) (path : Text) : List Text :=
  if path.head? = some '/' then [] else home

/-- Where a path leads from a working directory. -/
def resolve (home : List Text) (path : Text) : List Text :=
  (parts path).foldl step (startOf home path)

/-- The path of a directory from the root. -/
def absolute (place : List Text) : Text :=
  '/' :: Text.join "/" place.reverse

/-- A directory and all directories around it. -/
def enclosing : List Text → List (List Text)
  | [] => [[]]
  | name :: outer => (name :: outer) :: enclosing outer

/-- The names of a place below a directory, outermost first; nothing elsewhere. -/
def below? (home place : List Text) : Option (List Text) :=
  match place.reverse.drop home.length with
  | [] => none
  | names => if place.drop names.length = home then some names else none

/-- The paths of some places below a directory, each once and in the order of code points. -/
def listing (home : List Text) (places : List (List Text)) : List Text :=
  (distinct ((places.filterMap (below? home)).map (Text.join "/"))).mergeSort Text.atMost

/-- The character that ends a path, so that no name can hold it. -/
def endMark : Char := Char.ofNat 0

/-- The most bytes of a name. -/
def nameLimit : Nat := 255

/-- Whether a name is too long to be looked up. -/
def isLongName (name : Text) : Bool :=
  nameLimit < name.utf8.length

/-- The least number of bytes of a path that is too long. -/
def lengthLimit : Nat := 4096

/-- Whether a path is too long to be looked up. -/
def isLong (path : Text) : Bool :=
  lengthLimit ≤ path.utf8.length

end ScriptDocs.Path
