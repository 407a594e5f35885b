/-
# Names of functions and of documents

A function is looked up by its name in lower case, without blanks around it and
without one leading sigil. A document is shown by the part of its path below the
checkout of the documentation, or else by its file name.
-/

import ScriptDocs.Text.Blank
import ScriptDocs.Text.Letter

namespace ScriptDocs.Reference

/-- A text without one leading sigil. -/
def withoutSigil : Text → Text
  | '$' :: s => s
  | s => s

/-- The name under which a function is looked up. -/
def normalizeName (name : Text) : Text :=
  Text.lower (withoutSigil (Text.trim name))

/-- A path with slashes in the place of backslashes. -/
def withSlashes (path : Text) : Text :=
  path.map fun c => if c = '\\' then '/' else c

/-- The last component of a path, not counting empty ones and single points. -/
def fileName (path : Text) : Text :=
  (((Text.pieces '/' path).filter fun part => part ≠ [] ∧ part ≠ ['.']).getLast?).getD []

/-- The directory whose content is shown by relative paths. -/
def websiteMark : Text := "/website/"

/-- The directory that shown paths start with. -/
def contentMark : Text := "/src/content/docs/"

/-- The path of a document as it is shown. -/
def shownPath (path : Text) : Text :=
  let path := withSlashes path
  match Text.cut? websiteMark path with
  | some (_, below) => below
  | none =>
    match Text.cut? contentMark path with
    | some (_, below) => contentMark ++ below
    | none => fileName path

end ScriptDocs.Reference
