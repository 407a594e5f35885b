/-
# Rules for snippets

The checks on a snippet beside its control flow: guards need a message, conditions
hold no arithmetic, calls are written with brackets that close, and some
combinations of functions are refused. Each check looks at the snippet on its own,
and their findings are listed in a fixed order.
-/

import ScriptDocs.Snippet.Call
import ScriptDocs.Snippet.Flow
import ScriptDocs.Text.Blank

namespace ScriptDocs.Snippet

/-- The function that stops a script with a message unless a condition holds. -/
def guardName : Text := "$onlyIf"

/-- The word that opens a conditional block. -/
def ifName : Text := "$if"

/-- The functions that write a variable. -/
def mutations : List Text := ["$setUserVar", "$setServerVar", "$setVar"]

/-- The functions that read or write a global variable. -/
def globalAccessors : List Text := ["$getVar", "$setVar"]

/-- Whether the second argument of a guard is there and not blank. -/
def hasMessage : List Text → Bool
  | _ :: message :: _ => !(Text.trim message).isEmpty
  | _ => false

/-- Every guard needs a message as its second argument; one without brackets is
left to the check of the calls. -/
def guardFindings (calls : List Call) : List Finding :=
  ((callsOf guardName calls).filterMap Call.arguments?).filterMap fun arguments =>
    if hasMessage arguments then none else some .guardWithoutMessage

/-- Whether a character is an operator of arithmetic. -/
def isOperator (c : Char) : Bool :=
  c == '+' || c == '-' || c == '*' || c == '/'

/-- The conditions of a snippet: the first arguments of its `$if` and then of its guards. -/
def conditions (calls : List Call) : List Text :=
  ([ifName, guardName].flatMap fun name => callsOf name calls).filterMap fun call =>
    call.arguments?.bind List.head?

/-- A condition must not calculate. -/
def logicFindings (calls : List Call) : List Finding :=
  ((conditions calls).filter fun condition => condition.any isOperator).map
    fun _ => .arithmeticInCondition

/-- What is wrong with the form of a call. -/
def Call.finding? (call : Call) : Option Finding :=
  match call.form with
  | .bare => some (.missingBrackets call.name)
  | .unclosed _ => some (.unclosedBracket call.name)
  | .keyword | .closed _ => none

/-- The wrongly written calls, grouped by name. -/
def callFindings (calls : List Call) : List Finding :=
  (groupByName calls).flatMap fun (_, group) => group.filterMap Call.finding?

/-- The findings about the functions that a snippet combines. -/
def structureFindings (code : Text) : List Finding :=
  let names := functionNames code
  (if "$usersWithRole".toList ∈ names ∧ names.any (· ∈ mutations) then [.bulkMutation] else [])
    ++ if "$for".toList ∈ names then [.loop] else []

/-- The warnings about a snippet. -/
def warnings (code : Text) : List Warning :=
  (if (functionNames code).any (· ∈ globalAccessors) then [.globalVariables] else [])
    ++ if Text.contains "$onlyIf[" code && Text.hasMatch (Text.exactWord "$else") code then
        [.guardAsBranch]
      else []

/-- All findings that need no documentation. -/
def staticFindings (code : Text) : List Finding :=
  let calls := calls code
  flowFindings code ++ guardFindings calls ++ logicFindings calls ++ callFindings calls
    ++ structureFindings code

end ScriptDocs.Snippet
