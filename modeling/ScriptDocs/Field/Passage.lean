/-
# Reading a passage

A passage from outside is an object with known fields. Missing fields other than the
path, the content and the fingerprint have a default; unknown fields are refused, and
the time of storing is checked and passed over. No text may hold a surrogate that
stands alone. The components of the vector may be numbers, truth values or numerals.
-/

import ScriptDocs.Failure
import ScriptDocs.Field.Moment
import ScriptDocs.Field.Numeral
import ScriptDocs.Json.Basic
import ScriptDocs.Passage

namespace ScriptDocs

/-- The value of a field, or the faults found in it. -/
abbrev Checked (α : Type) := Except (List FieldFault) α

namespace Checked

/-- A single fault at a place. -/
def fault {α : Type} (location : List FieldStep) (rule : FieldRule) : Checked α :=
  .error [⟨location, rule⟩]

/-- A rule broken at a place. -/
def ofRule {α : Type} (location : List FieldStep) : Except FieldRule α → Checked α
  | .ok value => .ok value
  | .error rule => fault location rule

/-- The faults of a checked field. -/
def faults {α : Type} : Checked α → List FieldFault
  | .ok _ => []
  | .error faults => faults

end Checked

namespace Passage

/-- A text field that must be there and must not be empty. -/
def requiredText (name : Text) (fields : List (Text × Json)) : Checked Text :=
  match Json.lookup name fields with
  | none => Checked.fault [.name name] .missing
  | some (.text s) =>
    if Text.holdsSurrogate s then Checked.fault [.name name] .textUnwritable
    else if s.isEmpty then Checked.fault [.name name] .textTooShort
    else .ok s
  | some _ => Checked.fault [.name name] .textExpected

/-- A text field that may be missing or null. -/
def optionalText (name : Text) (fields : List (Text × Json)) : Checked (Option Text) :=
  match Json.lookup name fields with
  | none | some .null => .ok none
  | some (.text s) =>
    if Text.holdsSurrogate s then Checked.fault [.name name] .textUnwritable else .ok (some s)
  | some _ => Checked.fault [.name name] .textExpected

/-- The double that a component of a vector stands for. -/
def component : Json → Except FieldRule Binary64
  | .boolean value => .ok (if value then .one else .zero)
  | .integer n => match Binary64.ofInt? n with | some x => .ok x | none => .error .doubleExpected
  | .decimal x => .ok x
  | .text s => match Numeral.double? s with | some x => .ok x | none => .error .doubleUnreadable
  | .null | .list _ | .object _ => .error .doubleExpected

/-- The components of a vector from a position on, all faults collected. -/
def components (position : Nat) : List Json → Checked Vector64
  | [] => .ok []
  | item :: items =>
    match component item, components (position + 1) items with
    | .ok x, .ok xs => .ok (x :: xs)
    | .ok _, .error faults => .error faults
    | .error rule, rest =>
      .error (⟨[.name "embedding", .position position], rule⟩ :: rest.faults)

/-- The vector field, which may be missing but not null. -/
def vectorField (fields : List (Text × Json)) : Checked Vector64 :=
  match Json.lookup "embedding" fields with
  | none => .ok []
  | some (.list items) => components 0 items
  | some _ => Checked.fault [.name "embedding"] .listExpected

/-- The names of the fields of a passage. -/
def fieldNames : List Text :=
  ["source_path", "section_title", "content", "embedding", "fingerprint", "created_at"]

/-- What is told about the time of storing. -/
def momentOf (fields : List (Text × Json)) : Except FieldRule Bool :=
  Moment.ofValue ((Json.lookup "created_at" fields).getD .null)

/-- The passage that the fields of an object describe, or all their faults. -/
def ofFields (fields : List (Text × Json)) : Checked Passage :=
  let path := requiredText "source_path" fields
  let title := optionalText "section_title" fields
  let content := requiredText "content" fields
  let vector := vectorField fields
  let mark := requiredText "fingerprint" fields
  let moment := Checked.ofRule [.name "created_at"] (momentOf fields)
  let extras : List FieldFault := (fields.filter fun field => field.1 ∉ fieldNames).map
    fun field => ⟨[.name field.1], .unknownField⟩
  match path, title, content, vector, mark, moment.faults ++ extras with
  | .ok sourcePath, .ok sectionTitle, .ok content, .ok embedding, .ok fingerprint, [] =>
    .ok { sourcePath, sectionTitle, content, embedding, fingerprint }
  | _, _, _, _, _, others =>
    .error (path.faults ++ title.faults ++ content.faults ++ vector.faults ++ mark.faults ++ others)

/-- The passage that the fields of an object describe. A moment of the year 0 fails before
any fault is told. -/
def read (fields : List (Text × Json)) : Except Failure Passage :=
  match momentOf fields with
  | .ok true => .error .yearZero
  | _ => (ofFields fields).mapError .fieldsInvalid

end Passage

end ScriptDocs
