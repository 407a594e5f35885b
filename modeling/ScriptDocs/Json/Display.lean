/-
# Values on one line

The text of a value as it is put into titles: a text stands for itself, and inside
lists and objects it is quoted. The quotes are single ones, unless a text holds such
and no double one.
-/

import ScriptDocs.Binary64.Shortest
import ScriptDocs.Json.Basic
import ScriptDocs.Text.Quoted

namespace ScriptDocs.Json

mutual

/-- A value inside a list or an object. -/
def inner : Json → Text
  | .null => "None"
  | .boolean value => if value then "True" else "False"
  | .integer value => Text.ofInt value
  | .decimal value => value.shortestText
  | .text value => Text.quoted value
  | .list items => '[' :: Text.join ", " (innerItems items) ++ [']']
  | .object fields => '{' :: Text.join ", " (innerFields fields) ++ ['}']

/-- The items of a list. -/
def innerItems : List Json → List Text
  | [] => []
  | item :: items => inner item :: innerItems items

/-- The fields of an object. -/
def innerFields : List (Text × Json) → List Text
  | [] => []
  | (name, value) :: fields => (Text.quoted name ++ ':' :: ' ' :: inner value) :: innerFields fields

end

/-- The text of a value; empty for one that counts as nothing. -/
def display (value : Json) : Text :=
  if value.isSomething then
    match value with
    | .text s => s
    | _ => inner value
  else []

end ScriptDocs.Json
