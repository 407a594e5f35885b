/-
# Replies of providers

A provider is asked over the network. The request is answered by a reply, fails on
the way for a named reason, or is never answered. Only a reply whose status lies
between 200 and 299 is a success.
-/

import ScriptDocs.Json.Reader

namespace ScriptDocs

/-- The body of a reply: a JSON value, or bytes that may spell one. -/
inductive ReplyBody
  | value (value : Json)
  | bytes (bytes : Bytes)

/-- A reply of a provider. -/
structure Reply where
  status : Int := 200
  body : ReplyBody := .bytes []

/-- What becomes of a request. -/
inductive Delivery
  | replied (reply : Reply)
  | undelivered (reason : Text)
  /-- The address of the provider is no address. -/
  | misaddressed
  | unanswered

namespace Reply

/-- Whether a reply is a success. -/
def isSuccess (reply : Reply) : Bool :=
  200 ≤ reply.status && reply.status ≤ 299

/-- The JSON value of the body. -/
def json [Json.DepthLimit] (reply : Reply) : Except JsonFault Json :=
  match reply.body with
  | .value value => .ok value
  | .bytes bytes => Json.readBytes bytes

/-- Whether a phrase in ASCII occurs in the body. -/
def mentions (phrase : Text) (reply : Reply) : Bool :=
  match reply.body with
  | .value value => value.mentions phrase
  | .bytes bytes => Text.contains phrase (bytes.map fun byte => Char.ofNat byte.toNat)

end Reply

end ScriptDocs
