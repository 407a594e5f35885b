/-
# Calls in a snippet

A snippet calls functions as `$name[argument;argument]`. Brackets nest, and a
semicolon separates arguments only outside nested brackets. Reading the calls of a
snippet goes from left to right and resumes behind the closing bracket of a call, so a
call inside an argument stays part of the argument. A bracket that never closes
takes the rest of the snippet.
-/

import ScriptDocs.Text.Letter
import ScriptDocs.Text.Scan
import ScriptDocs.Text.Word

namespace ScriptDocs.Snippet

/-- Whether a character may stand in the name of a function. -/
def isNameChar (c : Char) : Bool :=
  Text.isPlainWord c

/-- The four words of control flow. -/
def flowKeywords : List Text := ["$if", "$elseif", "$else", "$endif"]

/-- The words of control flow that take no arguments. -/
def bracketlessKeywords : List Text := ["$else", "$endif"]

/-- How a call is written. -/
inductive CallForm
  /-- A name without brackets that needs them. -/
  | bare
  /-- A word of control flow that takes no brackets. -/
  | keyword
  /-- A name with arguments in brackets. -/
  | closed (arguments : List Text)
  /-- A name whose opening bracket is never closed. -/
  | unclosed (arguments : List Text)
  deriving DecidableEq, Repr

/-- A call: the name with its sigil, and how it is written. -/
structure Call where
  name : Text
  form : CallForm
  deriving DecidableEq, Repr

/-- The arguments of a call, if it has brackets or needs none. -/
def Call.arguments? (call : Call) : Option (List Text) :=
  match call.form with
  | .bare => none
  | .keyword => some []
  | .closed arguments | .unclosed arguments => some arguments

/-- Whether a call is written wrongly. -/
def Call.malformed (call : Call) : Bool :=
  match call.form with
  | .bare | .unclosed _ => true
  | .keyword | .closed _ => false

/-- The nesting depth behind a character; a closing bracket too many leaves it at zero. -/
def depthAfter (depth : Nat) (c : Char) : Nat :=
  if c = '[' then depth + 1 else if c = ']' then depth - 1 else depth

/-- The arguments of a text inside brackets, from the given depth on. -/
def argumentsFrom (depth : Nat) : Text → List Text
  | [] => [[]]
  | c :: s =>
    let depth := depthAfter depth c
    if c = ';' ∧ depth = 0 then [] :: argumentsFrom depth s
    else Text.ontoFirst c (argumentsFrom depth s)

/-- The arguments of a text inside brackets: the pieces between the semicolons
outside nested brackets. -/
def splitArguments (inner : Text) : List Text :=
  argumentsFrom 0 inner

/-- The text up to the bracket that closes the one before it, and the text behind
that bracket; `depth` counts the brackets opened in between. -/
def enclosed? : Nat → Text → Option (Text × Text)
  | _, [] => none
  | depth, c :: s =>
    if c = ']' then
      match depth with
      | 0 => some ([], s)
      | depth + 1 => (enclosed? depth s).map fun (inner, rest) => (c :: inner, rest)
    else
      let depth := if c = '[' then depth + 1 else depth
      (enclosed? depth s).map fun (inner, rest) => (c :: inner, rest)

/-- The call in front of a text. -/
def callInFront : Text.Pattern Call
  | '$' :: s =>
    let name := s.takeWhile isNameChar
    if name.isEmpty then none
    else
      let sigiled := '$' :: name
      match s.dropWhile isNameChar with
      | '[' :: inner =>
        match enclosed? 0 inner with
        | some (text, _) =>
          some (⟨sigiled, .closed (splitArguments text)⟩, sigiled.length + text.length + 2)
        | none => some (⟨sigiled, .unclosed (splitArguments inner)⟩, s.length + 1)
      | _ =>
        let form := if Text.lower sigiled ∈ bracketlessKeywords then CallForm.keyword else .bare
        some (⟨sigiled, form⟩, sigiled.length)
  | _ => none

/-- The calls of a snippet, from left to right. -/
def calls (code : Text) : List Call :=
  Text.allMatches callInFront code

/-- The calls that use one name. -/
def callsOf (name : Text) (calls : List Call) : List Call :=
  calls.filter fun call => call.name = name

/-- The calls grouped by name, the names in the order of their first call. -/
def groupByName (calls : List Call) : List (Text × List Call) :=
  (distinct (calls.map Call.name)).map fun name => (name, callsOf name calls)

/-- The name with its sigil in front of a text. -/
def nameInFront : Text.Pattern Text
  | '$' :: s =>
    let name := s.takeWhile isNameChar
    if name.isEmpty then none else some ('$' :: name, name.length + 1)
  | _ => none

/-- The names that occur in a snippet, at any depth, each once. -/
def functionNames (code : Text) : List Text :=
  distinct (Text.allMatches nameInFront code)

/-- The names that occur in a snippet other than the words of control flow. -/
def referencedFunctions (code : Text) : List Text :=
  (functionNames code).filter fun name => Text.lower name ∉ flowKeywords

end ScriptDocs.Snippet
