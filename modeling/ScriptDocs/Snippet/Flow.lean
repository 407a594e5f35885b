/-
# Control flow of a snippet

The words `$if`, `$elseif`, `$else` and `$endif` are found in any letter case and
anywhere in a snippet, also inside arguments. A block is opened by `$if`, may hold
one `$else` of its own, and is closed by `$endif`. The check walks the words once
and keeps the depth of open blocks and a count of `$else` for every depth, which is
set back where a block of that depth is closed. A word spelled with letters that only
count as equal when case is ignored is read as closing.
-/

import ScriptDocs.Snippet.Finding
import ScriptDocs.Text.Letter
import ScriptDocs.Text.Scan
import ScriptDocs.Text.Word

namespace ScriptDocs.Snippet

/-- A word of control flow. -/
inductive FlowToken
  | opening
  | elseif
  | otherwise
  | closing
  deriving DecidableEq, Repr

/-- The spellings of the words without their sigil, in the order in which they are tried. -/
def flowWords : List Text := ["if", "elseif", "else", "endif"]

/-- The word that a spelling stands for. -/
def FlowToken.ofSpelling (spelling : Text) : FlowToken :=
  let small := Text.lower spelling
  if small = "if".toList then .opening
  else if small = "elseif".toList then .elseif
  else if small = "else".toList then .otherwise
  else .closing

/-- The spelling of a word in front of a text when no word character follows it. -/
def wholeWord? (word s : Text) : Option Text :=
  match Text.afterFrontAnyCase? word s with
  | some rest => if Text.beginsWithWord rest then none else some (s.take word.length)
  | none => none

/-- The word of control flow in front of a text. -/
def flowTokenInFront : Text.Pattern FlowToken
  | '$' :: s =>
    (flowWords.findSome? fun word => wholeWord? word s).map fun spelling =>
      (FlowToken.ofSpelling spelling, spelling.length + 1)
  | _ => none

/-- The words of control flow of a snippet, from left to right. -/
def flowTokens (code : Text) : List FlowToken :=
  Text.allMatches flowTokenInFront code

/-- Where the walk over the words stands: how many blocks are open, and how many `$else` were
counted at every depth since a block of that depth was last closed. -/
structure FlowState where
  depth : Nat
  elses : Nat → Nat

namespace FlowState

/-- The walk begins outside of blocks, and has counted nothing. -/
def start : FlowState where
  depth := 0
  elses := fun _ => 0

/-- The state with another count of `$else` at its own depth. -/
def setElses (state : FlowState) (count : Nat) : FlowState :=
  { state with
    elses := fun depth => if depth = state.depth then count else state.elses depth }

/-- The state behind a word. -/
def behind (state : FlowState) : FlowToken → FlowState
  | .opening => { state with depth := state.depth + 1 }
  | .elseif => state
  | .otherwise =>
    if state.depth = 0 then state else state.setElses (state.elses state.depth + 1)
  | .closing =>
    if state.depth = 0 then state else { state.setElses 0 with depth := state.depth - 1 }

/-- What is wrong with a word where the walk stands. -/
def finding? (state : FlowState) : FlowToken → Option Finding
  | .opening => none
  | .elseif => if state.depth = 0 then some .elseifOutsideIf else none
  | .otherwise =>
    if state.depth = 0 then some .elseOutsideIf
    else if 1 < state.elses state.depth + 1 then some .repeatedElse
    else none
  | .closing => if state.depth = 0 then some .endifOutsideIf else none

end FlowState

/-- The findings of a walk over the words. -/
def flowFindingsFrom (state : FlowState) : List FlowToken → List Finding
  | [] => if state.depth = 0 then [] else [.unbalancedIf]
  | token :: tokens =>
    (state.finding? token).toList ++ flowFindingsFrom (state.behind token) tokens

/-- The findings about the control flow of a snippet. -/
def flowFindings (code : Text) : List Finding :=
  flowFindingsFrom .start (flowTokens code)

end ScriptDocs.Snippet
