/-
# Passages

A passage is one stored piece of documentation: where it comes from, the heading it
stands under, its text, the vector that stands for it, and its fingerprint. A hit is
a passage with its similarity to a query.
-/

import ScriptDocs.Binary64.Basic
import ScriptDocs.Text.Basic

namespace ScriptDocs

/-- A vector of doubles. -/
abbrev Vector64 := List Binary64

/-- A piece of documentation. The vector is empty where it has not been loaded. -/
structure Passage where
  sourcePath : Text
  sectionTitle : Option Text := none
  content : Text
  embedding : Vector64 := []
  fingerprint : Text
  deriving DecidableEq, Repr

/-- A passage and its similarity to a query. -/
structure Hit where
  passage : Passage
  score : Binary64
  deriving DecidableEq, Repr

end ScriptDocs
