/-
# Rows of the store

A row holds a passage and its vector as it was stored: the vector that was inserted,
or a text that something else has written in its place. Such a text is a vector if
it is a JSON list of numbers; anything else counts as no vector. An integer in the
list that no double comes near is an error.
-/

import ScriptDocs.Binary64.Shortest
import ScriptDocs.Failure
import ScriptDocs.Json.Reader
import ScriptDocs.Passage

namespace ScriptDocs

/-- The vector of a row, as it is stored. -/
inductive StoredVector
  | vector (components : Vector64)
  | written (text : Text)
  deriving DecidableEq, Repr

/-- A row of the store. -/
structure Row where
  sourcePath : Text
  sectionTitle : Option Text
  content : Text
  vector : StoredVector
  fingerprint : Text
  deriving DecidableEq, Repr

/-- The rows of the store in the order of their insertion. -/
abbrev Table := List Row

/-- Whether a JSON value is a number. -/
def Json.isNumber : Json → Bool
  | .integer _ | .decimal _ => true
  | _ => false

/-- The double of a JSON number, unless it is an integer beyond all doubles. -/
def Json.double? : Json → Option Binary64
  | .integer n => Binary64.ofInt? n
  | .decimal x => some x
  | _ => none

/-- The vector of a list of numbers; an integer beyond all doubles is an error. -/
def Json.vector (numbers : List Json) : Except Failure Vector64 :=
  match numbers.mapM Json.double? with
  | some v => .ok v
  | none => .error .beyondDoubles

/-- The vector that a written text stands for, or nothing when it is unreadable. -/
def decodeVector [Json.DepthLimit] (text : Text) : Except Failure (Option Vector64) :=
  match Json.read text with
  | .ok (.list items) =>
    if items.all Json.isNumber then (Json.vector items).map some else .ok none
  | .ok _ => .ok none
  | .error .nestedTooDeep => .error .nestedTooDeep
  | .error _ => .ok none

/-- The vector of a row, if it can be read. -/
def StoredVector.decode [Json.DepthLimit] : StoredVector → Except Failure (Option Vector64)
  | .vector components => .ok (some components)
  | .written text => decodeVector text

/-- Whether an integer can be told to the store. -/
def fitsStore (n : Int) : Bool :=
  -0x8000000000000000 ≤ n && n < 0x8000000000000000

/-- The text that a column holds for a value that is written into it, nothing for null. -/
def columnText? : Json → Except Failure (Option Text)
  | .null | .decimal .notANumber => .ok none
  | .text s => if Text.holdsSurrogate s then .error .textUnwritable else .ok (some s)
  | .boolean value => .ok (some (if value then ['1'] else ['0']))
  | .integer n => if fitsStore n then .ok (some (Text.ofInt n)) else .error .integerBeyondStore
  | .decimal x => .ok (some x.shortestText)
  | .list _ | .object _ => .error .columnUnfit

/-- The row that values for its columns make. All columns but that of the title must have
a value, which is told after the values themselves have been read. -/
def Row.ofColumns (fields : List (Text × Json)) : Except Failure Row := do
  let column (name : Text) : Except Failure (Option Text) :=
    columnText? ((Json.lookup name fields).getD .null)
  let sourcePath? ← column "source_path"
  let sectionTitle ← column "section_title"
  let content? ← column "content"
  let vector? ← column "embedding"
  let fingerprint? ← column "fingerprint"
  match sourcePath?, content?, vector?, fingerprint? with
  | some sourcePath, some content, some vector, some fingerprint =>
    return { sourcePath, sectionTitle, content, vector := .written vector, fingerprint }
  | _, _, _, _ => throw .columnEmpty

/-- The row that holds a passage; an empty title is none. -/
def Row.ofPassage (passage : Passage) : Row where
  sourcePath := passage.sourcePath
  sectionTitle := passage.sectionTitle.filter (!·.isEmpty)
  content := passage.content
  vector := .vector passage.embedding
  fingerprint := passage.fingerprint

/-- The faults of a row whose texts must not be empty. -/
def Row.faults (row : Row) : List FieldFault :=
  [(("source_path" : Text), row.sourcePath), ("content", row.content),
    ("fingerprint", row.fingerprint)].filterMap fun (name, value) =>
      if value.isEmpty then some ⟨[.name name], .textTooShort⟩ else none

/-- The passage of a row, with the given vector. -/
def Row.passage (row : Row) (embedding : Vector64) : Except Failure Passage :=
  match row.faults with
  | [] => .ok {
      sourcePath := row.sourcePath
      sectionTitle := row.sectionTitle
      content := row.content
      embedding
      fingerprint := row.fingerprint }
  | faults => .error (.fieldsInvalid faults)

end ScriptDocs
