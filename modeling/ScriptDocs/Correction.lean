/-
# Corrections by the generation provider

A correction rests on the passages closest to the intent, followed by the passages
closest to each documented function of the snippet. The answer counts only as far as
it holds a fenced block, of which the first is taken.
-/

import ScriptDocs.Service
import ScriptDocs.Snippet.Validation

namespace ScriptDocs.Service

/-- How many passages are taken for each documented function. -/
def correctionHits : Int := 6

/-- The hits for some functions, one search after the other. -/
def searchAll (service : Service) : List Text → Work (List Hit)
  | [] => .done []
  | name :: names => do
    let hits ← service.search ('$' :: name.dropWhile (· = '$')) correctionHits
    let rest ← service.searchAll names
    return hits ++ rest

/-- The correction of a snippet, if the answer to the request holds one. -/
def suggest (service : Service) (request : CorrectionRequest) : Work (Option Text) := do
  let hits ← service.search request.intent service.settings.hitLimit
  let more ← service.searchAll request.documented
  let answer ← service.generate {
    prompt := Prompt.correction request.intent request.code request.findings
    context := service.contextOf (hits ++ more)
    mostTokens := GenerationClient.tokenLimit }
  return Text.firstMatch? Snippet.fencedBlock answer

/-- The advisers of a validation that rest on the documentation. -/
def advisers (service : Service) (assisted : Bool) : Snippet.Advisers where
  score := fun name => Number.double <$> service.topScore name
  assistant := if assisted then some service.suggest else none

end ScriptDocs.Service
