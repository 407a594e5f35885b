/-
# Validation of a snippet

A snippet is stripped of its fences and checked without running it. Every function
that it names is looked up once, and counts as documented where its score reaches the
threshold. When the caller asks for a correction, missing closing words are appended
where that is the only thing wrong; else an assistant is asked, if there is one.
-/

import ScriptDocs.Binary64.Decimal
import ScriptDocs.Json.Basic
import ScriptDocs.Question
import ScriptDocs.Snippet.Repair
import ScriptDocs.Snippet.Rules
import ScriptDocs.Work

namespace ScriptDocs.Snippet

/-- The names of a snippet, divided by whether they are documented. -/
structure Coverage where
  documented : List Text
  undocumented : List Text
  deriving DecidableEq, Repr

/-- What a validation tells. -/
structure Diagnosis where
  request : Text
  findings : List Finding
  warnings : List Warning
  coverage : Coverage
  confidence : Binary64
  code : Text
  corrected : Option Text
  deriving DecidableEq, Repr

/-- Whether nothing is wrong with a snippet. -/
def Diagnosis.valid (diagnosis : Diagnosis) : Bool :=
  diagnosis.findings.isEmpty

/-- What a validation is asked for. The mode may be any value; only a text names one. -/
structure ValidationRequest where
  code : Option Text
  intent : Option Text := none
  mode : Json := .null

/-- The mode that a value names. What holds nothing names none. -/
def modeOf : Json → Except Failure (Option Text)
  | .text s => .ok (some s)
  | value => if value.isSomething then .error .modeNotText else .ok none

/-- Whether a request or a mode asks for a correction. The mode is only looked at where the
request does not ask for one. -/
def asksRepair (request : Option Text) (mode : Json) : Except Failure Bool :=
  if wantsRepair request none then .ok true else (modeOf mode).map (wantsRepair none)

/-- Whom a validation asks: for the score of a function, and for a correction. -/
structure Advisers where
  score : Text → Work Number
  assistant : Option (CorrectionRequest → Work (Option Text)) := none

/-- The names divided by whether their scores reach the threshold, looked up in order. -/
def classify (score : Text → Work Number) (threshold : Number) : List Text → Work Coverage
  | [] => .done ⟨[], []⟩
  | name :: names => do
    let found ← score name
    let rest ← classify score threshold names
    return if threshold.atMost found then { rest with documented := name :: rest.documented }
      else { rest with undocumented := name :: rest.undocumented }

/-- The share of documented names, moved into the upper half of the range from 0 to 1 and
rounded to four places; a half where no name is referenced. -/
def confidenceOf (documented referenced : Int) : Binary64 :=
  let half := Binary64.ofRatio 1 2
  if referenced ≤ 0 then half
  else
    let share := (Binary64.ofRatio documented referenced.toNat).clip .zero .one
    (half.add (half.mul share)).roundPlaces 4

/-- The confidence for two counts of any size; the share may lie beyond all doubles. -/
def checkedConfidence (documented referenced : Int) : Except Failure Binary64 :=
  if 0 < referenced ∧ !(Binary64.ofRatio documented referenced.toNat).isFinite then
    .error .quotientBeyondDoubles
  else .ok (confidenceOf documented referenced)

/-- A validation up to the correction: everything that is known without it. -/
def diagnose (score : Text → Work Number) (threshold : Number) (limit : Option Number)
    (request code : Text) : Work Diagnosis := do
  let names := referencedFunctions code
  let coverage ← Work.within limit .validationTimedOut (classify score threshold names)
  return {
    request
    findings := staticFindings code ++ coverage.undocumented.map Finding.undocumented
    warnings := warnings code
    coverage
    confidence := confidenceOf coverage.documented.length names.length
    code
    corrected := none }

/-- The correction of a diagnosed snippet, for which a caller asked. The assistant sees the
snippet as it was given. -/
def correct (assistant : Option (CorrectionRequest → Work (Option Text))) (given : Text)
    (diagnosis : Diagnosis) : Work (Option Text) :=
  let repaired? :=
    if diagnosis.findings = [.unbalancedIf] then appendEndifs? diagnosis.code else none
  match repaired?, assistant with
  | some repaired, _ => .done (some repaired)
  | none, some ask =>
    if diagnosis.request.isEmpty ∨ diagnosis.valid then .done none
    else ask {
      code := given
      intent := diagnosis.request
      findings := diagnosis.findings.map Finding.message
      documented := diagnosis.coverage.documented }
  | none, none => .done none

/-- The validation of a snippet. -/
def validate (advisers : Advisers) (threshold : Number) (limit : Option Number)
    (asked : ValidationRequest) : Work Diagnosis :=
  match asked.code with
  | none | some [] => .fail .codeMissing
  | some given =>
    let code := stripFences given
    if code.isEmpty then .fail .codeEmpty
    else do
      let request := (asked.intent.map Question.clean).getD []
      let diagnosis ← diagnose advisers.score threshold limit request code
      let corrective ← Work.ofExcept (asksRepair (some request) asked.mode)
      let corrected ← if corrective then correct advisers.assistant given diagnosis else .done none
      if corrected.any Text.holdsSurrogate then
        .fail (.fieldsInvalid [⟨[.name "fixed_code"], .textUnwritable⟩])
      else return { diagnosis with corrected }

end ScriptDocs.Snippet
