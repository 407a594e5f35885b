/-
# The schema of the store

The one table of the store with its columns and its index.
-/

import ScriptDocs.Text.Basic

namespace ScriptDocs.Schema

/-- A column and whether its values may be missing. -/
structure Column where
  name : Text
  optional : Bool := false
  deriving DecidableEq, Repr

/-- The name of the table of passages. -/
def tableName : Text := "docs"

/-- The columns of the table of passages. -/
def columns : List Column :=
  [{ name := "id" }, { name := "source_path" }, { name := "section_title", optional := true },
   { name := "content" }, { name := "embedding" }, { name := "fingerprint" },
   { name := "created_at" }]

/-- The index over the paths of the documents. -/
def indexName : Text := "idx_docs_source_path"

end ScriptDocs.Schema
