/-
# Leftmost scanning

A pattern looks at the front of a text and answers with a value and the number of
characters it has read. Scanning tries it at every position from the left, and
after a match goes on behind the characters read, so matches never overlap. A
match of no characters is none. The scan is structural: characters of a match are
counted off one by one instead of being dropped at once.
-/

import ScriptDocs.Text.Basic

namespace ScriptDocs.Text

/-- A pattern reads a value off the front of a text, and says how long what it read is. -/
abbrev Pattern (α : Type) := Text → Option (α × Nat)

/-- Scanning after `skip` more characters of the last match. -/
def matchesFrom {α : Type} (pattern : Pattern α) : Nat → Text → List α
  | _, [] => []
  | skip + 1, _ :: s => matchesFrom pattern skip s
  | 0, c :: s =>
    match pattern (c :: s) with
    | some (value, read + 1) => value :: matchesFrom pattern read s
    | _ => matchesFrom pattern 0 s

/-- The values of all matches, from the left. -/
def allMatches {α : Type} (pattern : Pattern α) (s : Text) : List α :=
  matchesFrom pattern 0 s

/-- The value of the leftmost match. -/
def firstMatch? {α : Type} (pattern : Pattern α) : Text → Option α
  | [] => none
  | c :: s =>
    match pattern (c :: s) with
    | some (value, _ + 1) => some value
    | _ => firstMatch? pattern s

/-- Whether a pattern matches somewhere. -/
def hasMatch {α : Type} (pattern : Pattern α) (s : Text) : Bool :=
  (firstMatch? pattern s).isSome

/-- Replacing after `skip` more characters of the last match. -/
def replaceFrom (pattern : Pattern Text) : Nat → Text → Text
  | _, [] => []
  | skip + 1, _ :: s => replaceFrom pattern skip s
  | 0, c :: s =>
    match pattern (c :: s) with
    | some (value, read + 1) => value ++ replaceFrom pattern read s
    | _ => c :: replaceFrom pattern 0 s

/-- A text with every match replaced by its value. -/
def replaceMatches (pattern : Pattern Text) (s : Text) : Text :=
  replaceFrom pattern 0 s

/-- The pattern that reads what a function leaves unread: its value is the given one. -/
def reading {α : Type} (value : α) (rest? : Text → Option Text) : Pattern α :=
  fun s => (rest? s).map fun rest => (value, s.length - rest.length)

end ScriptDocs.Text
