/-
# The generation provider

A question is sent together with the passages that the answer has to rest on. Without
a key nothing is sent. A reply without an answer is an empty answer, and a reply of
another form fails by the part that does not fit.
-/

import ScriptDocs.Prompt
import ScriptDocs.Provider.Reply
import ScriptDocs.Settings.Basic
import ScriptDocs.Text.Base64
import ScriptDocs.Text.Blank
import ScriptDocs.Url.Basic
import ScriptDocs.Work

namespace ScriptDocs

/-- A question with its passages and the most tokens of an answer. -/
structure ChatQuestion where
  prompt : Text
  context : List Passage
  mostTokens : Int := 400
  deriving DecidableEq, Repr

/-- Access to the generation provider. -/
structure GenerationClient where
  key : Text
  deriving DecidableEq, Repr

namespace GenerationClient

/-- The most tokens that are ever asked for. -/
def tokenLimit : Int := 800

/-- The client for a key, or else for the configured one. -/
def ofSettings (settings : Settings) (key : Option Text) : GenerationClient where
  key := (key <|> settings.chatKey).getD []

/-- The request for an answer. -/
def request (settings : Settings) (question : ChatQuestion) : ChatRequest where
  system := Prompt.system settings.contextCharacters question.context
  user := question.prompt
  mostTokens := min (if question.mostTokens = 0 then 400 else question.mostTokens) tokenLimit

/-- The body of a request. -/
def body (settings : Settings) (request : ChatRequest) : Json :=
  let message (role content : Text) : Json :=
    .object [("role", .text role), ("content", .text content)]
  .object
    [("model", .text settings.chatModel),
     ("messages", .list [message "system" request.system, message "user" request.user]),
     ("temperature", .decimal settings.chatTemperature),
     ("max_tokens", .integer request.mostTokens)]

/-- The address that requests go to. -/
def address (settings : Settings) : Except Failure Url :=
  Failure.ofAddress do
    Url.below {} (← Url.read settings.chatEndpoint)

/-- How a request names who sends it: by the user in its address, or else by the key. -/
def authorization (client : GenerationClient) (address : Url) : Text :=
  let (name, password) := address.user
  if name.isEmpty && password.isEmpty then "Bearer ".toList ++ client.key
  else "Basic ".toList ++ (name ++ ':' :: password).utf8.base64

/-- Why a request cannot be written: its head takes ASCII only, and its body takes finite
numbers and whole characters. -/
def unwritable? (settings : Settings) (client : GenerationClient) (request : ChatRequest) :
    Option Text :=
  if client.key.any fun c => 0x80 ≤ c.toNat then some "UnicodeEncodeError"
  else if !settings.chatTemperature.isFinite then some "ValueError"
  else if Text.holdsSurrogate (request.system ++ request.user) then some "UnicodeEncodeError"
  else none

/-- The value of a field, where one counts. -/
def part (name : Text) (fields : List (Text × Json)) : Option Json :=
  (Json.lookup name fields).filter Json.isSomething

/-- The content of a message. -/
def contentOf : Json → Except Failure Text
  | .object fields =>
    match part "content" fields with
    | none => .ok []
    | some (.text s) => .ok (Text.trim s)
    | some _ => .error .replyPartMisshapen
  | _ => .error .replyPartMisshapen

/-- The content of a choice. -/
def choiceOf : Json → Except Failure Text
  | .object fields =>
    match part "message" fields with
    | none => .ok []
    | some message => contentOf message
  | _ => .error .replyPartMisshapen

/-- The answer that a JSON value holds. -/
def answerOf : Json → Except Failure Text
  | .object fields =>
    match part "choices" fields with
    | none => .ok []
    | some (.list (choice :: _)) => choiceOf choice
    | some (.text _) => .error .replyPartMisshapen
    | some (.object _) => .error .replyListKeyed
    | some _ => .error .replyListNumeric
  | _ => .ok []

/-- The answer of a reply. -/
def answerOfReply [Json.DepthLimit] (reply : Reply) : Except Failure Text :=
  if reply.isSuccess then
    match reply.json with
    | .ok value => answerOf value
    | .error (.malformed _) => .error (.generationFailed "JSONDecodeError")
    | .error .notText => .error (.generationFailed "UnicodeDecodeError")
    | .error .integerTooLong => .error (.generationFailed "ValueError")
    | .error .nestedTooDeep => .error .nestedTooDeep
  else .error (.generationFailed "HTTPStatusError")

/-- How a request to an address ends. No reply is accepted from a relative one. -/
def outcome [Json.DepthLimit] (address : Url) : Delivery → Outcome Text
  | .replied reply =>
    if address.isAbsolute then
      match answerOfReply reply with
      | .ok answer => .done answer
      | .error failure => .failed failure
    else .failed (.generationFailed "ValueError")
  | .undelivered reason => .failed (.generationFailed reason)
  | .misaddressed => .failed .endpointInvalid
  | .unanswered => .waiting none

/-- The answer to a question, asked of a provider that answers a request with `deliver`. -/
def generate [Json.DepthLimit] (settings : Settings) (client : GenerationClient)
    (deliver : ChatRequest → Delivery) (question : ChatQuestion) : Work Text :=
  if client.key.isEmpty then .fail .generationKeyMissing
  else
    let request := request settings question
    match address settings, unwritable? settings client request with
    | .error failure, _ => .fail failure
    | .ok _, some reason => .fail (.generationFailed reason)
    | .ok address, none => ⟨outcome address (deliver request), [.generated request]⟩

end GenerationClient

end ScriptDocs
