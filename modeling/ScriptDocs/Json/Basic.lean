/-
# JSON values

The values that replies, requests and stored vectors are written in. An integer
keeps all its digits, a number with a point or an exponent is a double, and an
object keeps its fields in the order of their first appearance.
-/

import ScriptDocs.Binary64.Decimal
import ScriptDocs.Text.Surrogate

namespace ScriptDocs

/-- A JSON value. -/
inductive Json
  | null
  | boolean (value : Bool)
  | integer (value : Int)
  | decimal (value : Binary64)
  | text (value : Text)
  | list (items : List Json)
  | object (fields : List (Text × Json))
  deriving Inhabited

namespace Json

/-- A text given by its spelling. -/
def ofString (s : String) : Json :=
  .text s.toList

/-- A text, or null when there is none. -/
def ofText? : Option Text → Json
  | none => .null
  | some s => .text s

/-- The value of a field among fields; the names are compared exactly. -/
def lookup (name : Text) (fields : List (Text × Json)) : Option Json :=
  (fields.find? fun field => field.1 = name).map Prod.snd

/-- Fields with one more; a name that is there already gets the new value in its old place. -/
def withField (name : Text) (value : Json) : List (Text × Json) → List (Text × Json)
  | [] => [(name, value)]
  | field :: fields =>
    if field.1 = name then (name, value) :: fields else field :: withField name value fields

/-- Whether a value counts as something: null, false, zero and everything empty do not. -/
def isSomething : Json → Bool
  | .null => false
  | .boolean value => value
  | .integer value => value ≠ 0
  | .decimal value => !value.isZero
  | .text value => !value.isEmpty
  | .list items => !items.isEmpty
  | .object fields => !fields.isEmpty

mutual

/-- Whether a phrase occurs in a text or a field name somewhere inside a value. -/
def mentions (phrase : Text) : Json → Bool
  | .text value => Text.contains phrase value
  | .list items => mentionsAny phrase items
  | .object fields => mentionsField phrase fields
  | _ => false

/-- Whether a phrase occurs inside one of some values. -/
def mentionsAny (phrase : Text) : List Json → Bool
  | [] => false
  | item :: items => mentions phrase item || mentionsAny phrase items

/-- Whether a phrase occurs in a name or inside a value of some fields. -/
def mentionsField (phrase : Text) : List (Text × Json) → Bool
  | [] => false
  | (name, value) :: fields =>
    Text.contains phrase name || mentions phrase value || mentionsField phrase fields

/-- Whether a value holds neither a number that is not finite nor a surrogate that stands
alone, so that every reader of JSON can read it. -/
def isStandard : Json → Bool
  | .decimal value => value.isFinite
  | .text value => !Text.holdsSurrogate value
  | .list items => areStandard items
  | .object fields => areStandardFields fields
  | _ => true

/-- Whether every reader of JSON can read some values. -/
def areStandard : List Json → Bool
  | [] => true
  | item :: items => isStandard item && areStandard items

/-- Whether every reader of JSON can read some fields. -/
def areStandardFields : List (Text × Json) → Bool
  | [] => true
  | (name, value) :: fields =>
    !Text.holdsSurrogate name && isStandard value && areStandardFields fields

end

end Json

end ScriptDocs
