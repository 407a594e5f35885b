/-
# What clients see

The JSON forms of hits, pages, diagnoses, answers and refusals.
-/

import ScriptDocs.Reference.Page
import ScriptDocs.Server.Form
import ScriptDocs.Snippet.Validation
import ScriptDocs.Store.Table

namespace ScriptDocs.Server

/-- A list of texts. -/
def textsView (texts : List Text) : Json :=
  .list (texts.map Json.text)

/-- A passage that a search has found. -/
def hitView (hit : Hit) : Json :=
  .object
    [("source_path", .text hit.passage.sourcePath),
     ("section_title", Json.ofText? hit.passage.sectionTitle),
     ("content", .text hit.passage.content),
     ("score", .decimal hit.score)]

/-- A parameter of a function. -/
def parameterView (parameter : Reference.Parameter) : Json :=
  .object
    [("name", .text parameter.name),
     ("description", Json.ofText? parameter.description),
     ("type", Json.ofText? parameter.type),
     ("required", (parameter.required.map Json.boolean).getD .null)]

/-- The parameters of a page, null where none are known. -/
def parametersView (parameters : List Reference.Parameter) : Json :=
  if parameters.isEmpty then .null else .list (parameters.map parameterView)

/-- The page of a function. -/
def pageView (page : Reference.Page) : List (Text × Json) :=
  [("function", .text page.function),
   ("syntax", Json.ofText? page.syntaxLine),
   ("description", Json.ofText? page.description),
   ("parameters", parametersView page.parameters),
   ("examples", textsView page.examples),
   ("sources", textsView page.sources),
   ("confidence", .decimal page.confidence)]

/-- The diagnosis of a snippet. -/
def diagnosisView (diagnosis : Snippet.Diagnosis) : Json :=
  .object
    [("request", .text diagnosis.request),
     ("errors", textsView (diagnosis.findings.map Snippet.Finding.message)),
     ("warnings", textsView (diagnosis.warnings.map Snippet.Warning.message)),
     ("documented_functions", textsView diagnosis.coverage.documented),
     ("undocumented_functions", textsView diagnosis.coverage.undocumented),
     ("confidence", .decimal diagnosis.confidence),
     ("original_code", .text diagnosis.code),
     ("fixed_code", Json.ofText? diagnosis.corrected),
     ("valid", .boolean diagnosis.valid)]

/-- The figures of the store. -/
def statisticsView (statistics : Statistics) : Json :=
  .object
    [("total_passages", .integer statistics.passages),
     ("total_sources", .integer statistics.sources.length),
     ("sources", textsView statistics.sources)]

/-- A step on the way to a field. -/
def stepView : FieldStep → Json
  | .name name => .text name
  | .position index => .integer index

/-- A fault of a field: its place and the broken rule. -/
def faultView (fault : FieldFault) : Json :=
  .list [.list (fault.location.map stepView), .text fault.rule.name]

/-- Some faults. -/
def faultsView (faults : List FieldFault) : Json :=
  .list (faults.map faultView)

/-- A response: its status and its body, null where it has none. -/
structure Response where
  status : Nat := 200
  body : Json

/-- A response that only says what went wrong. -/
def detailResponse (status : Nat) (detail : Json) : Response :=
  ⟨status, .object [("detail", detail)]⟩

/-- The response to a request that failed. -/
def errorResponse (status : Nat) (error detail : Text) : Response :=
  ⟨status, .object [("error", .text error), ("detail", .text detail)]⟩

/-- The response to a failure. Only the message of malformed input is told to the client. -/
def failureResponse (failure : Failure) : Response :=
  match failure.kind with
  | .invalidInput => errorResponse 400 "invalid_input" failure.message
  | .embeddingUnavailable | .embeddingMalformed | .generationUnavailable =>
    errorResponse 502 "upstream_unavailable" "Upstream provider unavailable"
  | .cancelled => errorResponse 504 "cancelled" "Operation cancelled before completion"
  | .storage | .invalidFields | .other _ =>
    errorResponse 500 "internal_server_error" "Internal server error"

/-- The response to a refused request. -/
def refusalResponse : Refusal → Response
  | .faults faults => detailResponse 422 (faultsView faults)
  | .unreadableBody => detailResponse 400 (.ofString "There was an error parsing the body")
  | .unwritableFaults => failureResponse .textUnwritable

end ScriptDocs.Server
