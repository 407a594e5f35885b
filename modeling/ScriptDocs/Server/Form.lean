/-
# Requests and their forms

A request is a method, a path, named parameters and possibly a body. The parameters
and the body of a search are checked before anything else is done, and all faults
are told at once.
-/

import ScriptDocs.Field.Passage
import ScriptDocs.Failure
import ScriptDocs.Json.Reader
import ScriptDocs.Url.Basic

namespace ScriptDocs.Server

/-- The body of a request. -/
inductive Body
  | missing
  | value (value : Json)
  | bytes (bytes : Bytes)

/-- A request. -/
structure Request where
  method : Text := "GET"
  path : Text
  parameters : List (Text × Text) := []
  body : Body := .missing

/-- The capitals of characters outside ASCII, as far as they are in ASCII. -/
def foreignCapitals : List (Nat × Text) :=
  [(0xDF, "SS"), (0x131, "I"), (0x17F, "S"), (0xFB00, "FF"), (0xFB01, "FI"), (0xFB02, "FL"),
   (0xFB03, "FFI"), (0xFB04, "FFL"), (0xFB05, "ST"), (0xFB06, "ST")]

/-- The method that a text names, in capitals. -/
def methodOf (name : Text) : Text :=
  name.flatMap fun c => (List.lookup c.toNat foreignCapitals).getD [c.toUpper]

/-- The address of the service itself. -/
def home : Url where
  scheme := "http"
  host := "testserver"
  path := "/"

/-- The path that a request with some parameters is made for. Its target is an address,
perhaps a relative one, and its parameters take the place of the query of that. -/
def pathOf (target : Text) (parameters : List (Text × Text)) : Except Failure Text :=
  Failure.ofAddress do
    let url ← Url.below home (← Url.read target)
    let query := if parameters.isEmpty then none else some (Text.formText parameters)
    return (← url.withQuery query).shownPath

/-- The request that a client makes. -/
def Request.make (method target : Text) (parameters : List (Text × Text)) (body : Body) :
    Except Failure Request :=
  (pathOf target parameters).map fun path =>
    { method := methodOf method, path, parameters, body }

/-- The value of a parameter; of several with one name the last counts. -/
def Request.parameter? (request : Request) (name : Text) : Option Text :=
  (request.parameters.reverse.find? fun parameter => parameter.1 = name).map Prod.snd

/-- Why a request is refused before it is worked on. -/
inductive Refusal
  | faults (faults : List FieldFault)
  /-- The body is no JSON that can be read. -/
  | unreadableBody
  /-- The faults are of a value that cannot be repeated to the client. -/
  | unwritableFaults
  deriving DecidableEq, Repr

/-- An integer between two bounds. -/
def bounded (least most n : Int) : Except FieldRule Int :=
  if n < least then .error .tooSmall else if most < n then .error .tooLarge else .ok n

/-- The integer that a double stands for, which lies between the bounds of 64 bits. -/
def wholeNumber : Binary64 → Except FieldRule Int
  | .finite negative units =>
    if units % Binary64.unitsOfOne ≠ 0 then .error .integerHasFraction
    else if Nat.pow 2 63 * Binary64.unitsOfOne ≤ units then .error .integerTooLong
    else .ok (Binary64.signedUnits negative units / Binary64.unitsOfOne)
  | _ => .error .finiteExpected

/-- The integer that a JSON value stands for. -/
def integerOf : Json → Except FieldRule Int
  | .integer n => .ok n
  | .boolean value => .ok (if value then 1 else 0)
  | .decimal x => wholeNumber x
  | .text s => Numeral.integer s
  | .null | .list _ | .object _ => .error .integerExpected

/-- What a search asks for. -/
structure SearchForm where
  query : Text
  count : Int
  deriving DecidableEq, Repr

namespace SearchForm

/-- The place of a field in the body. -/
def place (name : Text) : List FieldStep :=
  [.name "body", .name name]

/-- The most characters of a query. -/
def queryLimit : Nat := 4000

/-- The query of a search. -/
def queryOf (fields : List (Text × Json)) : Checked Text :=
  match Json.lookup "query" fields with
  | none => Checked.fault (place "query") .missing
  | some (.text s) =>
    if Text.holdsSurrogate s then Checked.fault (place "query") .textUnwritable
    else if s.isEmpty then Checked.fault (place "query") .textTooShort
    else if queryLimit < s.length then Checked.fault (place "query") .textTooLong
    else .ok s
  | some _ => Checked.fault (place "query") .textExpected

/-- The number of hits that a search wants. -/
def countOf (fields : List (Text × Json)) : Checked Int :=
  match Json.lookup "k" fields with
  | none => .ok 8
  | some value => Checked.ofRule (place "k") (integerOf value >>= bounded 1 100)

/-- The names of the fields of a search. -/
def fieldNames : List Text := ["query", "k"]

/-- The form that the fields of a body fill in. -/
def ofFields (fields : List (Text × Json)) : Checked SearchForm :=
  let extras : List FieldFault := (fields.filter fun field => field.1 ∉ fieldNames).map
    fun field => ⟨place field.1, .unknownField⟩
  match queryOf fields, countOf fields, extras with
  | .ok query, .ok count, [] => .ok ⟨query, count⟩
  | query, count, extras => .error (query.faults ++ count.faults ++ extras)

/-- A fault of the whole body. -/
def bodyFault {α : Type} (location : List FieldStep) (rule : FieldRule) : Except Refusal α :=
  .error (.faults [⟨.name "body" :: location, rule⟩])

/-- The form that a value fills in. The refusal of a value repeats it. -/
def ofValue (value : Json) : Except Refusal SearchForm :=
  let form : Except Refusal SearchForm :=
    match value with
    | .object fields => (ofFields fields).mapError .faults
    | _ => bodyFault [] .objectExpected
  if value.isStandard then form else form.mapError fun _ => .unwritableFaults

/-- The form that the body of a request fills in. -/
def ofBody : Body → Except Refusal SearchForm
  | .missing | .bytes [] => bodyFault [] .missing
  | .value value => ofValue value
  | .bytes bytes =>
    match Json.readBytes bytes with
    | .ok value => ofValue value
    | .error (.malformed position) => bodyFault [.position position] .jsonExpected
    | .error _ => .error .unreadableBody

end SearchForm

/-- The most tokens that a question asks for, if it says so. -/
def tokensOf (request : Request) : Checked (Option Int) :=
  match request.parameter? "max_tokens" with
  | none => .ok none
  | some s =>
    let location : List FieldStep := [.name "query", .name "max_tokens"]
    (Checked.ofRule location (Numeral.integer s >>= bounded 1 800)).map some

end ScriptDocs.Server
