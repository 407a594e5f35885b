/-
# The embedding provider

One text is sent per request, and the vector is taken from the reply. Without a key or
without a proper address nothing is sent. Whatever the provider answers ends in a vector
or in a failure that names the cause.
-/

import ScriptDocs.Provider.Reply
import ScriptDocs.Settings.Basic
import ScriptDocs.Store.Row
import ScriptDocs.Text.Blank
import ScriptDocs.Url.Basic
import ScriptDocs.Work

namespace ScriptDocs

/-- Access to the embedding provider. -/
structure EmbeddingClient where
  key : Text
  model : Text
  base : Text
  deriving DecidableEq, Repr

/-- A request to the embedding provider as it goes over the network: its address, the
host and the path as they are shown, the key and the body. -/
structure EmbeddingRequest where
  address : Url
  host : Text
  path : Text
  key : Text
  body : Json

namespace EmbeddingClient

/-- Whether a character is a quotation mark, as keys are often copied with them. -/
def isQuote (c : Char) : Bool :=
  c == '\'' || c == '"'

/-- A key without blanks and quotation marks around it. -/
def cleanKey (key : Text) : Text :=
  Text.dropEnds isQuote (Text.trim key)

/-- The given text, or the configured one where none or an empty one is given. -/
def given (configured : Text) (s : Option Text) : Text :=
  (s.filter (!·.isEmpty)).getD configured

/-- The client for a key, a model and a base address; what is not given is taken from
the settings. -/
def ofSettings (settings : Settings) (key model base : Option Text) : EmbeddingClient where
  key := cleanKey ((key <|> settings.embeddingKey).getD [])
  model := given settings.embeddingModel model
  base := Text.dropRightWhile (· == '/') (given settings.embeddingBase base)

/-- The address that requests go to. -/
def endpoint (client : EmbeddingClient) : Text :=
  client.base ++ '/' :: client.model ++ ":embedContent".toList

/-- The request for the vector of a text. Its address holds the key in its query. -/
def request (client : EmbeddingClient) (text : Text) : Except Failure EmbeddingRequest := do
  let parameters := Text.formText [("key", client.key)]
  let address ← Failure.ofAddress do
    let url ← Url.read client.endpoint
    (← Url.below {} url).withQuery (some parameters)
  if Text.holdsSurrogate text then throw .textUnwritable
  let host ← (Url.Host.shown address.host).mapError Failure.hostUnreadable
  return {
    address, host
    path := address.shownPath
    key := client.key
    body := .object [("content", .object [("parts", .list [.object [("text", .text text)]])])] }

/-- The value of a field of an object, null where it is missing. -/
def field (name : Text) (fields : List (Text × Json)) : Json :=
  (Json.lookup name fields).getD .null

/-- The value that holds the vector: the embedding, or the one inside the data when there
is none. -/
def holder (fields : List (Text × Json)) : Json :=
  match field "embedding" fields, field "data" fields with
  | .null, .object inner => field "embedding" inner
  | found, _ => found

/-- The vector that a JSON value holds. -/
def vectorOf : Json → Except Failure Vector64
  | .object fields =>
    let numbers? : Option Json :=
      match holder fields with
      | .object inner => Json.lookup "values" inner <|> Json.lookup "value" inner
      | _ => none
    match numbers? with
    | some (.list (item :: items)) =>
      if (item :: items).all Json.isNumber then Json.vector (item :: items)
      else .error .vectorNotNumeric
    | _ => .error .vectorMissing
  | _ => .error .embeddingNotObject

/-- The vector of a reply. -/
def vectorOfReply [Json.DepthLimit] (reply : Reply) : Except Failure Vector64 :=
  if reply.isSuccess then
    match reply.json with
    | .ok value => vectorOf value
    | .error .nestedTooDeep => .error .nestedTooDeep
    | .error _ => .error .embeddingNotJson
  else if reply.status = 403 ∧ reply.mentions "unregistered callers" then
    .error .embeddingUnauthorized
  else .error (.embeddingRefused reply.status)

/-- How a request to an address ends. No reply is accepted from a relative one. -/
def outcome [Json.DepthLimit] (address : Url) : Delivery → Outcome Vector64
  | .replied reply =>
    if address.isAbsolute then
      match vectorOfReply reply with
      | .ok vector => .done vector
      | .error failure => .failed failure
    else .failed (.addressRelative address.text)
  | .undelivered reason => .failed (.embeddingUndelivered reason)
  | .misaddressed => .failed .endpointInvalid
  | .unanswered => .waiting none

/-- The vector of a text, asked of a provider that answers it with `deliver`. -/
def embed [Json.DepthLimit] (client : EmbeddingClient) (deliver : Text → Delivery) (text : Text) :
    Work Vector64 :=
  if client.key.isEmpty then .fail .embeddingKeyMissing
  else
    match client.request text with
    | .ok request => ⟨outcome request.address (deliver text), [.embedded text]⟩
    | .error failure => .fail failure

/-- The vectors of some texts, asked one after the other until one fails. The
provider answers the requests in turn, the first ones having been answered already. -/
def embedAll (client : EmbeddingClient) (deliver : Nat → Text → Delivery) (answered : Nat) :
    List Text → Work (List Vector64)
  | [] => .done []
  | text :: texts => do
    let vector ← client.embed (deliver answered) text
    let vectors ← client.embedAll deliver (answered + 1) texts
    return vector :: vectors

/-- The results for some texts, each asked whatever becomes of the others. -/
def embedEach (client : EmbeddingClient) (deliver : Nat → Text → Delivery) (answered : Nat) :
    List Text → List (Work Vector64)
  | [] => []
  | text :: texts =>
    client.embed (deliver answered) text :: client.embedEach deliver (answered + 1) texts

end EmbeddingClient

end ScriptDocs
