/-
# The routes of the service

Each route takes one method at one path. A request for a path that is known but for
a slash at its end is sent on; an unknown path and a wrong method are refused. The
routes themselves check their parameters, ask the service and show its result.
-/

import ScriptDocs.Correction
import ScriptDocs.Server.View
import ScriptDocs.Store.Address

namespace ScriptDocs.Server

/-- The routes. -/
inductive Route
  | health
  | search
  | statistics
  | answer
  | function
  | validation
  deriving DecidableEq, Repr

/-- The path of a route. -/
def Route.path : Route → Text
  | .health => "/health"
  | .search => "/search/"
  | .statistics => "/search/stats"
  | .answer => "/api/basicQuery"
  | .function => "/api/function"
  | .validation => "/api/validateAoi"

/-- The method of a route. -/
def Route.method : Route → Text
  | .search => "POST"
  | _ => "GET"

/-- All routes. -/
def routes : List Route :=
  [.health, .search, .statistics, .answer, .function, .validation]

/-- The route at a path. -/
def Route.at? (path : Text) : Option Route :=
  routes.find? fun route => route.path = path

/-- A path with its last slashes taken away, or with one added where it has none. -/
def otherSlash (path : Text) : Text :=
  if path.getLast? = some '/' then Text.dropRightWhile (· == '/') path else path ++ ['/']

/-- The health of the service: which backend its store has. -/
def healthResponse (settings : Settings) : Work Response :=
  match Address.read settings.databaseAddress with
  | .ok address =>
    .done ⟨200, .object [("status", .ofString "ok"), ("store", .text address.backend)]⟩
  | .error failure => .fail failure

/-- A search for passages. -/
def searchResponse (service : Service) (form : SearchForm) : Work Response :=
  let query := Question.clean form.query
  if query.isEmpty then .fail .queryBlank
  else do
    let hits ← service.search query form.count
    return ⟨200, .list (hits.map hitView)⟩

/-- The first text that is there and not empty, or else the last one. -/
def firstGiven : List (Option Text) → Option Text
  | [] => none
  | [s] => s
  | s :: rest => match s with
    | some (c :: s) => some (c :: s)
    | _ => firstGiven rest

/-- A question with the number of tokens that its answer may have. -/
structure AnswerForm where
  prompt : Text
  mostTokens : Option Int
  wantsCode : Bool
  deriving DecidableEq, Repr

/-- The form of a question, whose number of tokens has been checked. -/
def AnswerForm.ofRequest (request : Request) (mostTokens : Option Int) : AnswerForm where
  prompt := ((firstGiven [request.parameter? "q", request.parameter? "request"]).map
    Question.clean).getD []
  mostTokens
  wantsCode := Text.lower ((request.parameter? "mode").getD []) = "code".toList

/-- An answer of the service: words or code, with the documents it rests on. -/
structure Answer where
  words : Option Text := none
  code : Option Text := none
  sources : List Text := []
  confidence : Binary64
  deriving DecidableEq, Repr

/-- An answer, without the fields that are missing. -/
def answerView (answer : Answer) : Json :=
  let present (name : Text) (s : Option Text) : List (Text × Json) :=
    (s.map fun s => (name, Json.text s)).toList
  let rest : List (Text × Json) :=
    [("sources", textsView answer.sources), ("confidence", .decimal answer.confidence)]
  .object (present "answer" answer.words ++ present "code" answer.code ++ rest)

/-- The question that is put to the generation provider. -/
def AnswerForm.question (form : AnswerForm) (context : List Passage) : ChatQuestion where
  prompt := form.prompt ++ "\n\n".toList
    ++ if form.wantsCode then Prompt.codeInstructions else Prompt.answerInstructions
  context
  mostTokens := form.mostTokens.getD (if form.wantsCode then 400 else 350)

/-- The answer to a question. Below the threshold the provider is not asked. -/
def answerQuestion (service : Service) (form : AnswerForm) : Work Answer :=
  if form.prompt.isEmpty then .fail .questionBlank
  else do
    let hits ← service.search form.prompt service.settings.hitLimit
    let confidence := Service.confidence hits
    if service.isWeak hits then
      return { words := some Prompt.notDocumented, confidence }
    else
      let context := service.contextOf hits
      let sources := distinct (context.map fun passage => Reference.shownPath passage.sourcePath)
      let text ← service.generate (form.question context)
      if form.wantsCode then
        let code := (Text.firstMatch? Markdown.wholeBlock text).getD text
        return { code := some code, sources, confidence }
      else return { words := some text, sources, confidence }

/-- The page of a function. -/
def functionResponse (service : Service) (name : Text) : Work Response :=
  if (Reference.normalizeName name).isEmpty then .fail .functionNameBlank
  else do
    let page ← service.describe name
    return ⟨200, .object (pageView page)⟩

/-- The diagnosis of a snippet. -/
def validationResponse (service : Service) (request : Request) : Work Response := do
  let diagnosis ← Snippet.validate (service.advisers true) service.settings.threshold none {
    code := request.parameter? "code"
    intent := firstGiven [request.parameter? "request", request.parameter? "intent"]
    mode := Json.ofText? (request.parameter? "mode") }
  return ⟨200, diagnosisView diagnosis⟩

/-- The work on a request at a route. -/
def Route.work (service : Service) (request : Request) : Route → Work Response
  | .health => healthResponse service.settings
  | .search =>
    match SearchForm.ofBody request.body with
    | .ok form => searchResponse service form
    | .error refusal => .done (refusalResponse refusal)
  | .statistics => do
    let statistics ← Work.ofExcept service.store.statistics
    return ⟨200, statisticsView statistics⟩
  | .answer =>
    match tokensOf request with
    | .ok mostTokens => do
      let answer ← answerQuestion service (AnswerForm.ofRequest request mostTokens)
      return ⟨200, answerView answer⟩
    | .error faults => .done (refusalResponse (.faults faults))
  | .function => functionResponse service ((request.parameter? "name").getD [])
  | .validation => validationResponse service request

/-- A body as a response to the given method carries it. -/
def bodyFor (method : Text) (response : Response) : Response :=
  if method = "HEAD".toList then { response with body := .null } else response

/-- The work on a request. -/
def respond (service : Service) (request : Request) : Work Response :=
  match Route.at? request.path with
  | some route =>
    if route.method = request.method then route.work service request
    else .done (bodyFor request.method (detailResponse 405 (.ofString "Method Not Allowed")))
  | none =>
    if (Route.at? (otherSlash request.path)).isSome then .done ⟨307, .null⟩
    else .done (bodyFor request.method (detailResponse 404 (.ofString "Not Found")))

/-- The response at the end of some work; nothing where an answer never comes. A body that
not every reader of JSON can read is not sent. -/
def conclude (work : Work Response) : Option Response :=
  work.result?.map fun result =>
    match result with
    | .ok response => if response.body.isStandard then response else failureResponse .textUnwritable
    | .error failure => failureResponse failure

end ScriptDocs.Server
