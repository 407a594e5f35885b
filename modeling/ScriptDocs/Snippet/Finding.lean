/-
# Findings about a snippet

What can be wrong with a snippet, and what is merely doubtful. Each finding is a
cause; its wording is given once, here.
-/

import ScriptDocs.Text.Basic

namespace ScriptDocs.Snippet

/-- Something wrong with a snippet. -/
inductive Finding
  | elseifOutsideIf
  | elseOutsideIf
  | repeatedElse
  | endifOutsideIf
  | unbalancedIf
  | guardWithoutMessage
  | arithmeticInCondition
  | missingBrackets (name : Text)
  | unclosedBracket (name : Text)
  | bulkMutation
  | loop
  | undocumented (name : Text)
  deriving DecidableEq, Repr

/-- The wording of a finding. -/
def Finding.message : Finding → Text
  | .elseifOutsideIf => "$elseif without matching $if"
  | .elseOutsideIf => "$else without matching $if"
  | .repeatedElse => "Multiple $else at same $if depth"
  | .endifOutsideIf => "$endif without matching $if"
  | .unbalancedIf => "Mismatched $if / $endif"
  | .guardWithoutMessage => "$onlyIf requires a non-empty error message"
  | .arithmeticInCondition =>
    "Arithmetic operators are not allowed in logical conditions; ".toList
      ++ "use aoi.js comparison macros or documented patterns".toList
  | .missingBrackets name => "Invalid function syntax: " ++ name ++ " must use brackets [..]".toList
  | .unclosedBracket name => "Invalid function syntax: " ++ name ++ "[ is never closed".toList
  | .bulkMutation =>
    "Bulk-user operations are not supported: avoid combining $usersWithRole with mutations"
  | .loop => "Loops are not supported in aoi.js: $for is invalid"
  | .undocumented name => "Undocumented function: " ++ name

/-- Something doubtful about a snippet. -/
inductive Warning
  | globalVariables
  | guardAsBranch
  deriving DecidableEq, Repr

/-- The wording of a warning. -/
def Warning.message : Warning → Text
  | .globalVariables => "Global variables used without explicit justification"
  | .guardAsBranch => "$onlyIf should be used for validation, not branching"

end ScriptDocs.Snippet
