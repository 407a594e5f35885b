/-
# Retrieval

A query is embedded and the stored passages are ranked against it. The passages about
one function are those below the directory of functions whose file is named for it or
whose text calls it. The page of a function is put together from the passages about
it, and from the other passages of the same documents where its parameters are not
described.
-/

import ScriptDocs.Provider.Generation
import ScriptDocs.Reference.Page
import ScriptDocs.Store.Basic

namespace ScriptDocs

/-- What a request works with: the settings, the store as it is, the two providers,
and the time a search may take. -/
structure Service where
  settings : Settings
  store : Store
  embed : Text → Work Vector64
  generate : ChatQuestion → Work Text
  timeLimit : Option Number := none

namespace Service

/-- The directory that pages of functions are below. -/
def functionMark : Text := "/functions/"

/-- How many passages are ranked to describe a function. -/
def describedHits : Int := 50

/-- The most passages that are taken from one document. -/
def sourceLimit : Int := 50

/-- Whether a passage documents the function of a normalized name. -/
def documents (name : Text) (passage : Passage) : Bool :=
  let path := Text.lower (Reference.withSlashes passage.sourcePath)
  Text.contains functionMark path
    && (Text.contains name (path.reverse.takeWhile (· ≠ '/')).reverse
      || Text.contains ('$' :: name) (Text.lower passage.content))

/-- The results that document a function, in their order, given the passage of each. -/
def documenting {α : Type} (passageOf : α → Passage) (name : Text) (results : List α) : List α :=
  let name := Reference.normalizeName name
  if name.isEmpty then [] else results.filter fun result => documents name (passageOf result)

/-- The best passages for a query. Its time is limited by the given limit, or else by
that of the service. -/
def search (service : Service) (query : Text) (k : Int) (limit : Option Number := none) :
    Work (List Hit) :=
  Work.within (limit <|> service.timeLimit) .searchTimedOut do
    let vector ← service.embed query
    Work.ofExcept (service.store.search (vector.map Number.double) k)

/-- The best passages about a function. -/
def searchFunction (service : Service) (name : Text) (k : Int) : Work (List Hit) := do
  let name := Reference.normalizeName name
  let hits ← service.search ('$' :: name) k
  return upTo service.settings.functionResults (documenting Hit.passage name hits)

/-- The score of the best of some hits, zero where there are none. -/
def bestScore (hits : List Hit) : Binary64 :=
  (hits.head?.map Hit.score).getD .zero

/-- How well the documentation covers a function. -/
def topScore (service : Service) (name : Text) : Work Binary64 := do
  let hits ← service.searchFunction name service.settings.functionHits
  return bestScore hits

/-- All passages of some documents, each document once. -/
def passagesOf (service : Service) (sources : List Text) (limit : Int) :
    Except Failure (List Passage) :=
  let named := (distinct sources).filter (!·.isEmpty)
  (named.mapM fun source => service.store.bySource source limit).map List.flatten

/-- The page of a function from the hits about it, completed from their documents. -/
def pageOf (service : Service) (name : Text) (hits : List Hit) :
    Except Failure Reference.Page := do
  let passages := hits.map Hit.passage
  let page := Reference.Page.ofPassages name passages
  if page.lacksDetails then
    let extra ← service.passagesOf (passages.map Passage.sourcePath) sourceLimit
    return if extra.isEmpty then page else Reference.Page.ofPassages name (passages ++ extra)
  else return page

/-- Whether hits are too few or too weak to rest on. -/
def isWeak (service : Service) (hits : List Hit) : Bool :=
  hits.isEmpty || (Number.double (bestScore hits)).below service.settings.threshold

/-- A score as it is shown. -/
def confidence (hits : List Hit) : Binary64 :=
  (bestScore hits).roundPlaces 4

/-- The page of a function. It is empty where nothing reaches the threshold. -/
def describe (service : Service) (name : Text) : Work Reference.Page := do
  let name := Reference.normalizeName name
  let hits ← service.searchFunction name describedHits
  if service.isWeak hits then
    return { function := '$' :: name, confidence := confidence hits }
  else
    let page ← Work.ofExcept (service.pageOf name hits)
    return { page with confidence := confidence hits }

/-- The most characters of a title in a prompt. -/
def titleLimit : Nat := 500

/-- A title on one line and of bounded length. -/
def flatTitle (title : Text) : Text :=
  (title.map fun c => if c = '\n' ∨ c = '\r' ∨ c = '\t' then ' ' else c).take titleLimit

/-- A passage as it is put into a prompt. -/
def contextPassage (passage : Passage) : Passage :=
  { passage with sectionTitle := (passage.sectionTitle.map flatTitle).filter (!·.isEmpty) }

/-- The passages of the first hits, as they are put into a prompt. -/
def contextOf (service : Service) (hits : List Hit) : List Passage :=
  (upTo service.settings.contextPassages hits).map fun hit => contextPassage hit.passage

end Service

end ScriptDocs
