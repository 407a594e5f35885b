/-
# Faults of fields

A record or a request that comes from outside is checked field by field. Each fault
names the place where it was found and the rule that was broken; all faults of one
value are collected.
-/

import ScriptDocs.Text.Basic

namespace ScriptDocs

/-- The rules that a field can break. -/
inductive FieldRule
  | missing
  | textExpected
  | textTooShort
  | textTooLong
  | textUnwritable
  | listExpected
  | doubleExpected
  | doubleUnreadable
  | integerExpected
  | integerUnreadable
  | integerTooLong
  | integerHasFraction
  | finiteExpected
  | tooSmall
  | tooLarge
  | unknownField
  | objectExpected
  | jsonExpected
  | momentExpected
  | momentUnreadable
  | momentOutOfRange
  deriving DecidableEq, Repr

/-- The name of a rule as clients see it. -/
def FieldRule.name : FieldRule → Text
  | .missing => "missing"
  | .textExpected => "string_type"
  | .textTooShort => "string_too_short"
  | .textTooLong => "string_too_long"
  | .textUnwritable => "string_unicode"
  | .listExpected => "list_type"
  | .doubleExpected => "float_type"
  | .doubleUnreadable => "float_parsing"
  | .integerExpected => "int_type"
  | .integerUnreadable => "int_parsing"
  | .integerTooLong => "int_parsing_size"
  | .integerHasFraction => "int_from_float"
  | .finiteExpected => "finite_number"
  | .tooSmall => "greater_than_equal"
  | .tooLarge => "less_than_equal"
  | .unknownField => "extra_forbidden"
  | .objectExpected => "model_attributes_type"
  | .jsonExpected => "json_invalid"
  | .momentExpected => "datetime_type"
  | .momentUnreadable => "datetime_from_date_parsing"
  | .momentOutOfRange => "datetime_parsing"

/-- A step on the way to a field: a name, or a position in a list or a text. -/
inductive FieldStep
  | name (name : Text)
  | position (index : Nat)
  deriving DecidableEq, Repr

/-- A broken rule and the way to the field that breaks it. -/
structure FieldFault where
  location : List FieldStep
  rule : FieldRule
  deriving DecidableEq, Repr

end ScriptDocs
