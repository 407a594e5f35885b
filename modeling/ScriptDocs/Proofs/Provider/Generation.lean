/-
# How an answer is generated

The answer of a reply is the content of the message of its first choice, and on the way there a part
that counts for nothing makes the answer empty. A part that counts, and has another shape than what
is taken from it asks for, ends the reading with a failure of its own. Apart from that, and from a
body that is nested too deep, an answer is trimmed, or the provider counts as unavailable.
-/

import ScriptDocs.Provider.Generation
import ScriptDocs.Store.Row
import ScriptDocs.Proofs.Text.Blank
import ScriptDocs.Proofs.Work

namespace ScriptDocs.GenerationClient

/-- A field whose value counts as something. -/
def Counts (name : Text) (fields : List (Text × Json)) (value : Json) : Prop :=
  Json.lookup name fields = some value ∧ value.isSomething = true

theorem part_eq_some_iff {name : Text} {fields : List (Text × Json)} {value : Json} :
    part name fields = some value ↔ Counts name fields value := by
  rw [part, Option.filter_eq_some_iff, Counts]

/-- The choices of a reply that begin with the given one. -/
def FirstChoice (fields : List (Text × Json)) (choice : Json) : Prop :=
  ∃ others, Counts "choices" fields (.list (choice :: others))

/-- A reply whose parts do not have the shape that their places ask for: the choices are no list,
the first of them or its message is no object, or the content is no text. What counts for nothing
may stand in any place. -/
inductive Misshapen : Json → Failure → Prop
  | choicesText {fields : List (Text × Json)} {s : Text}
      (hchoices : Counts "choices" fields (.text s)) :
      Misshapen (.object fields) .replyPartMisshapen
  | choicesObject {fields inner : List (Text × Json)}
      (hchoices : Counts "choices" fields (.object inner)) :
      Misshapen (.object fields) .replyListKeyed
  | choicesNumber {fields : List (Text × Json)} {value : Json}
      (hchoices : Counts "choices" fields value)
      (hnumber : value.isNumber = true ∨ value = .boolean true) :
      Misshapen (.object fields) .replyListNumeric
  | choice {fields : List (Text × Json)} {choice : Json} (hfirst : FirstChoice fields choice)
      (hother : ∀ inner, choice ≠ .object inner) : Misshapen (.object fields) .replyPartMisshapen
  | message {fields inner : List (Text × Json)} {message : Json}
      (hfirst : FirstChoice fields (.object inner)) (hmessage : Counts "message" inner message)
      (hother : ∀ parts, message ≠ .object parts) : Misshapen (.object fields) .replyPartMisshapen
  | content {fields inner parts : List (Text × Json)} {content : Json}
      (hfirst : FirstChoice fields (.object inner))
      (hmessage : Counts "message" inner (.object parts))
      (hcontent : Counts "content" parts content) (hother : ∀ s, content ≠ .text s) :
      Misshapen (.object fields) .replyPartMisshapen

theorem Misshapen.kind_ne {value : Json} {failure : Failure}
    (hmisshapen : Misshapen value failure) : failure.kind ≠ .generationUnavailable := by
  cases hmisshapen <;> exact nofun

theorem contentOf_of_object {parts : List (Text × Json)} {content : Json}
    (hcontent : Counts "content" parts content) (hother : ∀ s, content ≠ .text s) :
    contentOf (.object parts) = .error .replyPartMisshapen := by
  rw [contentOf, part_eq_some_iff.mpr hcontent]
  cases content with
  | text s => exact absurd rfl (hother s)
  | null | boolean _ | integer _ | decimal _ | list _ | object _ => rfl

theorem contentOf_of_not_object {message : Json} (hother : ∀ parts, message ≠ .object parts) :
    contentOf message = .error .replyPartMisshapen := by
  cases message with
  | object parts => exact absurd rfl (hother parts)
  | null | boolean _ | integer _ | decimal _ | list _ | text _ => rfl

theorem choiceOf_of_message {inner : List (Text × Json)} {message : Json}
    (hmessage : Counts "message" inner message) :
    choiceOf (.object inner) = contentOf message := by
  rw [choiceOf, part_eq_some_iff.mpr hmessage]

theorem choiceOf_of_not_object {choice : Json} (hother : ∀ inner, choice ≠ .object inner) :
    choiceOf choice = .error .replyPartMisshapen := by
  cases choice with
  | object inner => exact absurd rfl (hother inner)
  | null | boolean _ | integer _ | decimal _ | list _ | text _ => rfl

theorem answerOf_of_firstChoice {fields : List (Text × Json)} {choice : Json}
    (hfirst : FirstChoice fields choice) : answerOf (.object fields) = choiceOf choice := by
  obtain ⟨others, hchoices⟩ := hfirst
  rw [answerOf, part_eq_some_iff.mpr hchoices]

theorem answerOf_of_misshapen {value : Json} {failure : Failure}
    (hmisshapen : Misshapen value failure) : answerOf value = .error failure := by
  cases hmisshapen with
  | choicesText hchoices | choicesObject hchoices =>
      rw [answerOf, part_eq_some_iff.mpr hchoices]
  | @choicesNumber fields value hchoices hnumber =>
      rw [answerOf, part_eq_some_iff.mpr hchoices]
      cases value with
      | boolean _ | integer _ | decimal _ => rfl
      | null | text _ | list _ | object _ =>
          rcases hnumber with hnumber | hnumber
          · cases hnumber
          · cases hnumber
  | choice hfirst hother =>
      rw [answerOf_of_firstChoice hfirst]
      exact choiceOf_of_not_object hother
  | message hfirst hmessage hother =>
      rw [answerOf_of_firstChoice hfirst, choiceOf_of_message hmessage]
      exact contentOf_of_not_object hother
  | content hfirst hmessage hcontent hother =>
      rw [answerOf_of_firstChoice hfirst, choiceOf_of_message hmessage]
      exact contentOf_of_object hcontent hother

/-- A choice has a trimmed answer, or a part of it is misshapen. -/
theorem choiceOf_cases {fields : List (Text × Json)} {choice : Json}
    (hfirst : FirstChoice fields choice) :
    (∃ answer, Text.IsTrimmed answer ∧ choiceOf choice = .ok answer) ∨
      ∃ failure, Misshapen (.object fields) failure := by
  by_cases hother : ∀ inner, choice ≠ .object inner
  · exact Or.inr ⟨_, .choice hfirst hother⟩
  obtain ⟨inner, rfl⟩ := not_forall_not.mp hother
  cases hmessage : part "message" inner with
  | none => exact Or.inl ⟨[], Text.isTrimmed_nil, by rw [choiceOf, hmessage]⟩
  | some message =>
      rw [part_eq_some_iff] at hmessage
      by_cases hother : ∀ parts, message ≠ .object parts
      · exact Or.inr ⟨_, .message hfirst hmessage hother⟩
      obtain ⟨parts, rfl⟩ := not_forall_not.mp hother
      rw [choiceOf_of_message hmessage]
      cases hcontent : part "content" parts with
      | none => exact Or.inl ⟨[], Text.isTrimmed_nil, by rw [contentOf, hcontent]⟩
      | some content =>
          by_cases hother : ∀ s, content ≠ .text s
          · exact Or.inr ⟨_, .content hfirst hmessage (part_eq_some_iff.mp hcontent) hother⟩
          obtain ⟨s, rfl⟩ := not_forall_not.mp hother
          exact Or.inl ⟨Text.trim s, Text.isTrimmed_trim s, by rw [contentOf, hcontent]⟩

/-- A JSON value has a trimmed answer, or a part of it is misshapen. -/
theorem answerOf_cases (value : Json) :
    (∃ answer, Text.IsTrimmed answer ∧ answerOf value = .ok answer) ∨
      ∃ failure, Misshapen value failure := by
  cases value with
  | object fields =>
      cases hchoices : part "choices" fields with
      | none => exact Or.inl ⟨[], Text.isTrimmed_nil, by rw [answerOf, hchoices]⟩
      | some choices =>
          rw [part_eq_some_iff] at hchoices
          cases choices with
          | list items =>
              cases items with
              | nil => cases hchoices.2
              | cons choice others =>
                  have hfirst : FirstChoice fields choice := ⟨others, hchoices⟩
                  rw [answerOf_of_firstChoice hfirst]
                  exact choiceOf_cases hfirst
          | text s => exact Or.inr ⟨_, .choicesText hchoices⟩
          | object inner => exact Or.inr ⟨_, .choicesObject hchoices⟩
          | integer _ | decimal _ => exact Or.inr ⟨_, .choicesNumber hchoices (Or.inl rfl)⟩
          | boolean b =>
              have htrue : b = true := hchoices.2
              exact Or.inr ⟨_, .choicesNumber hchoices (Or.inr (congrArg _ htrue))⟩
          | null => cases hchoices.2
  | null | boolean _ | integer _ | decimal _ | text _ | list _ =>
      exact Or.inl ⟨[], Text.isTrimmed_nil, rfl⟩

/-- There is a key, and the request can be written. -/
structure Sends (settings : Settings) (client : GenerationClient) (question : ChatQuestion) :
    Prop where
  key_ne_nil : client.key ≠ []
  writable : unwritable? settings client (request settings question) = none

section Replies

variable [Json.DepthLimit]

/-- A reply has a trimmed answer, or tells that there is none to be had, or it is a success whose
body is nested too deep or misshapen. -/
theorem answerOfReply_cases (reply : Reply) :
    (∃ answer, Text.IsTrimmed answer ∧ answerOfReply reply = .ok answer) ∨
      (∃ failure, answerOfReply reply = .error failure ∧ failure.kind = .generationUnavailable) ∨
      reply.isSuccess = true ∧ (reply.json = .error .nestedTooDeep ∨
        ∃ value failure, reply.json = .ok value ∧ Misshapen value failure) := by
  unfold answerOfReply
  cases hsuccess : reply.isSuccess with
  | false => exact Or.inr (Or.inl ⟨_, rfl, rfl⟩)
  | true =>
      rw [if_pos rfl]
      split
      · rename_i value hjson
        rcases answerOf_cases value with hanswer | ⟨failure, hmisshapen⟩
        · exact Or.inl hanswer
        · exact Or.inr (Or.inr ⟨rfl, Or.inr ⟨value, failure, hjson, hmisshapen⟩⟩)
      · exact Or.inr (Or.inl ⟨_, rfl, rfl⟩)
      · exact Or.inr (Or.inl ⟨_, rfl, rfl⟩)
      · exact Or.inr (Or.inl ⟨_, rfl, rfl⟩)
      · rename_i hdeep
        exact Or.inr (Or.inr ⟨rfl, Or.inl hdeep⟩)

/-- The failures that do not say that the provider is unavailable, and what leads to each of them:
a success from an absolute address whose body is nested too deep, or is misshapen. -/
inductive Escapes (settings : Settings) (client : GenerationClient) (address : Url)
    (question : ChatQuestion) : Delivery → Failure → Prop
  | bodyTooDeep {reply : Reply} (hsends : Sends settings client question)
      (habsolute : address.isAbsolute = true) (hsuccess : reply.isSuccess = true)
      (hdeep : reply.json = .error .nestedTooDeep) :
      Escapes settings client address question (.replied reply) .nestedTooDeep
  | misshapen {reply : Reply} {value : Json} {failure : Failure}
      (hsends : Sends settings client question) (habsolute : address.isAbsolute = true)
      (hsuccess : reply.isSuccess = true) (hjson : reply.json = .ok value)
      (hmisshapen : Misshapen value failure) :
      Escapes settings client address question (.replied reply) failure

variable {settings : Settings} {client : GenerationClient} {address : Url}
  {question : ChatQuestion}

theorem Escapes.kind_ne {delivery : Delivery} {failure : Failure}
    (hescapes : Escapes settings client address question delivery failure) :
    failure.kind ≠ .generationUnavailable := by
  cases hescapes with
  | bodyTooDeep => exact nofun
  | misshapen _ _ _ _ hmisshapen => exact hmisshapen.kind_ne

theorem generate_of_sends (haddress : GenerationClient.address settings = .ok address)
    (hsends : Sends settings client question) (deliver : ChatRequest → Delivery) :
    (generate settings client deliver question).outcome =
      outcome address (deliver (request settings question)) := by
  have hkey : ¬ client.key.isEmpty = true := by simpa using hsends.key_ne_nil
  rw [generate, if_neg hkey]
  dsimp only
  rw [haddress, hsends.writable]

theorem generate_of_not_sends (haddress : GenerationClient.address settings = .ok address)
    (hnot : ¬ Sends settings client question) (deliver : ChatRequest → Delivery) :
    ∃ failure, (generate settings client deliver question).outcome = .failed failure ∧
      failure.kind = .generationUnavailable := by
  unfold generate
  by_cases hkey : client.key.isEmpty = true
  · rw [if_pos hkey]
    exact ⟨_, rfl, rfl⟩
  rw [if_neg hkey]
  dsimp only
  rw [haddress]
  cases hunwritable : unwritable? settings client (request settings question) with
  | none => exact absurd ⟨by simpa using hkey, hunwritable⟩ hnot
  | some reason => exact ⟨_, rfl, rfl⟩

theorem generate_of_escapes (haddress : GenerationClient.address settings = .ok address)
    {deliver : ChatRequest → Delivery} {failure : Failure}
    (hescapes : Escapes settings client address question (deliver (request settings question))
      failure) :
    (generate settings client deliver question).outcome = .failed failure := by
  generalize hdelivery : deliver (request settings question) = delivery at hescapes
  cases hescapes with
  | bodyTooDeep hsends habsolute hsuccess hdeep =>
      rw [generate_of_sends haddress hsends, hdelivery, outcome, if_pos habsolute, answerOfReply,
        if_pos hsuccess, hdeep]
  | misshapen hsends habsolute hsuccess hjson hmisshapen =>
      rw [generate_of_sends haddress hsends, hdelivery, outcome, if_pos habsolute, answerOfReply,
        if_pos hsuccess, hjson]
      dsimp only
      rw [answerOf_of_misshapen hmisshapen]

/-- Every request that is replied to or fails on the way ends in one of three ways. -/
theorem generate_cases (haddress : GenerationClient.address settings = .ok address)
    {deliver : ChatRequest → Delivery}
    (hends : (∃ reply, deliver (request settings question) = .replied reply) ∨
      ∃ reason, deliver (request settings question) = .undelivered reason) :
    (∃ answer, Text.IsTrimmed answer ∧
        (generate settings client deliver question).outcome = .done answer) ∨
      (∃ failure, (generate settings client deliver question).outcome = .failed failure ∧
        failure.kind = .generationUnavailable) ∨
      ∃ failure, Escapes settings client address question (deliver (request settings question))
        failure := by
  by_cases hsends : Sends settings client question
  case neg => exact Or.inr (Or.inl (generate_of_not_sends haddress hsends deliver))
  rw [generate_of_sends haddress hsends]
  rcases hends with ⟨reply, hreply⟩ | ⟨reason, hreason⟩
  · rw [hreply, outcome]
    by_cases habsolute : address.isAbsolute = true
    · rw [if_pos habsolute]
      rcases answerOfReply_cases reply with ⟨answer, htrimmed, hanswer⟩ |
        ⟨failure, hfailed, hkind⟩ | ⟨hsuccess, hdeep | ⟨value, failure, hjson, hmisshapen⟩⟩
      · rw [hanswer]
        exact Or.inl ⟨answer, htrimmed, rfl⟩
      · rw [hfailed]
        exact Or.inr (Or.inl ⟨failure, rfl, hkind⟩)
      · exact Or.inr (Or.inr ⟨_, .bodyTooDeep hsends habsolute hsuccess hdeep⟩)
      · exact Or.inr (Or.inr ⟨failure, .misshapen hsends habsolute hsuccess hjson hmisshapen⟩)
    · rw [if_neg habsolute]
      exact Or.inr (Or.inl ⟨_, rfl, rfl⟩)
  · rw [hreason]
    exact Or.inr (Or.inl ⟨_, rfl, rfl⟩)

/-- An answer that is replied to, or fails on the way, is trimmed, or fails since the provider is
unavailable, unless the reply is a success whose body is nested too deep or misshapen. -/
theorem generate_keeps_kind_iff (haddress : GenerationClient.address settings = .ok address)
    {deliver : ChatRequest → Delivery}
    (hends : (∃ reply, deliver (request settings question) = .replied reply) ∨
      ∃ reason, deliver (request settings question) = .undelivered reason) :
    let outcome := (generate settings client deliver question).outcome
    let delivery := deliver (request settings question)
    ((∃ answer, Text.IsTrimmed answer ∧ outcome = .done answer) ∨
        (∃ failure, outcome = .failed failure ∧ failure.kind = .generationUnavailable) ↔
      ∀ failure, ¬ Escapes settings client address question delivery failure) ∧
    ∀ failure, Escapes settings client address question delivery failure →
      outcome = .failed failure ∧ failure.kind ≠ .generationUnavailable := by
  intro outcome delivery
  have hescaped : ∀ failure, Escapes settings client address question delivery failure →
      outcome = .failed failure ∧ failure.kind ≠ .generationUnavailable :=
    fun failure hescapes => ⟨generate_of_escapes haddress hescapes, hescapes.kind_ne⟩
  refine ⟨⟨?_, fun hnone => ?_⟩, hescaped⟩
  · intro hkept failure hescapes
    obtain ⟨hfailed, hother⟩ := hescaped failure hescapes
    rcases hkept with ⟨answer, -, hdone⟩ | ⟨found, hfound, hkind⟩
    · cases hfailed.symm.trans hdone
    · cases hfailed.symm.trans hfound
      exact hother hkind
  · rcases generate_cases haddress hends with hdone | hfailed | ⟨failure, hescapes⟩
    · exact Or.inl hdone
    · exact Or.inr hfailed
    · exact absurd hescapes (hnone failure)

end Replies

/-- A question without passages. -/
def plainQuestion : ChatQuestion where
  prompt := "p"
  context := []

/-- The address of the provider in the settings as they come. -/
def plainAddress : Url where
  scheme := "https"
  host := "api.mistral.ai"
  path := "/v1/chat/completions"

/-- A reply whose message counts for nothing. -/
def silentReply : Reply where
  body := .bytes (Text.utf8 "\x7b\"choices\":[\x7b\"message\":0\x7d]\x7d")

/-- What counts for nothing is no failure, whatever its shape. -/
theorem generate_keeps_kind_iff_of_silentReply :
    let deliver : ChatRequest → Delivery := fun _ => .replied silentReply
    (GenerationClient.address {} = .ok plainAddress ∧
        ∃ reply, deliver (request {} plainQuestion) = .replied reply) ∧
      (generate {} ⟨"k"⟩ deliver plainQuestion).outcome = .done [] ∧
      ∀ failure, ¬ Escapes {} ⟨"k"⟩ plainAddress plainQuestion (.replied silentReply) failure := by
  intro deliver
  have haddress : GenerationClient.address {} = .ok plainAddress := by decide +kernel
  have hends : ∃ reply, deliver (request {} plainQuestion) = .replied reply := ⟨silentReply, rfl⟩
  have hdone : (generate {} ⟨"k"⟩ deliver plainQuestion).outcome = .done [] := by decide +kernel
  refine ⟨⟨haddress, hends⟩, hdone, ?_⟩
  exact (generate_keeps_kind_iff haddress (Or.inl hends)).1.mp
    (Or.inl ⟨[], Text.isTrimmed_nil, hdone⟩)

/-- A reply with a number where the choices are. -/
def numericReply : Reply where
  body := .bytes (Text.utf8 "\x7b\"choices\":5\x7d")

/-- Such a reply gives neither an answer nor a failure that the provider is unavailable. -/
theorem generate_of_numericReply :
    let outcome := (generate {} ⟨"k"⟩ (fun _ => .replied numericReply) plainQuestion).outcome
    outcome = .failed .replyListNumeric ∧
      ¬ ((∃ answer, Text.IsTrimmed answer ∧ outcome = .done answer) ∨
        ∃ failure, outcome = .failed failure ∧ failure.kind = .generationUnavailable) := by
  intro outcome
  have hfailed : outcome = .failed .replyListNumeric := by decide +kernel
  refine ⟨hfailed, ?_⟩
  rw [hfailed]
  rintro (⟨answer, -, hdone⟩ | ⟨failure, hfound, hkind⟩)
  · cases hdone
  · cases hfound
    cases hkind

end ScriptDocs.GenerationClient
