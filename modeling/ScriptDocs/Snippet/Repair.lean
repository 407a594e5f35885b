/-
# Repair of a snippet

When a caller asks for a correction, missing `$endif` are appended mechanically.
The repair counts `$if` and `$endif` written in small letters and adds as many
closing words as are missing, each on a line of its own, inside one fence.
-/

import ScriptDocs.Snippet.Fence
import ScriptDocs.Text.Word

namespace ScriptDocs.Snippet

/-- The words that ask for a correction. -/
def repairWords : List Text :=
  ["fix", "correct", "repair", "resolve", "update", "rewrite", "refactor"]

/-- Whether the intent mentions a correction, or the mode is one of the words for it. -/
def wantsRepair (intent mode : Option Text) : Bool :=
  (intent.any fun s => repairWords.any fun word => Text.containsAnyCase word s)
    || mode.any fun s =>
      repairWords.any fun word => Text.afterFrontAnyCase? word (Text.trim s) = some []

/-- How often a word occurs. -/
def countWord (word code : Text) : Nat :=
  (Text.allMatches (Text.exactWord word) code).length

/-- The snippet with the missing `$endif` appended, in a fence; nothing when none is missing. -/
def appendEndifs? (code : Text) : Option Text :=
  let missing := countWord "$if" code - countWord "$endif" code
  if missing = 0 then none
  else
    let lineEnd : Text := if Text.endsWith "\n" code then [] else "\n"
    some ("```js\n" ++ code ++ lineEnd ++ Text.join "\n" (List.replicate missing "$endif")
      ++ "\n```".toList)

end ScriptDocs.Snippet
