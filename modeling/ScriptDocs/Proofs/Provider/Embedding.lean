/-
# How an embedding ends

A provider that is asked for a vector replies, or the request fails on the way. The reply holds the
numbers of a vector, or it does not; both are told by its fields. So an embedding ends with a
vector, or with a failure that says that the provider is unavailable or that its reply is malformed,
but for four causes: a key too long for an address, a text that cannot be written, a body that is
nested too deep for the reader of JSON, and an integer beyond all doubles among the numbers.
-/

import ScriptDocs.Provider.Embedding
import ScriptDocs.Proofs.Store.Search
import ScriptDocs.Proofs.Work

namespace ScriptDocs

namespace Url

/-- The query of parts makes no difference to the rest of the address. -/
theorem ofParts_with_query (parts : Parts) (query : Text) :
    ofParts { parts with query := some query } =
      (ofParts { parts with query := some [] }).map fun address =>
        { address with query := some (Text.escaped isQueryChar query) } := by
  unfold ofParts
  simp only [bind, Except.bind, pure, Except.pure]
  cases Host.write (splitPort (splitUser parts.authority).2).1 with
  | error fault => rfl
  | ok host =>
      dsimp only
      cases readPort parts.scheme (splitPort (splitUser parts.authority).2).2 with
      | error fault => rfl
      | ok port =>
          dsimp only
          split <;> rfl

/-- An address that takes an empty query takes every query but one that is too long. -/
theorem withQuery_eq {url address : Url} (hempty : url.withQuery (some []) = .ok address)
    (query : Text) : url.withQuery (some query) =
      if lengthLimit < query.length then .error (.partTooLong .query)
      else .ok { address with query := some (Text.escaped isQueryChar query) } := by
  have hlisted : ∀ query, ({ url.parts with query := some query } : Parts).listed =
      [(.scheme, url.parts.scheme), (.authority, url.parts.authority), (.path, url.parts.path)] ++
        [(.query, query)] ++ (url.parts.fragment.map fun s => (Part.fragment, s)).toList :=
    fun _ => rfl
  unfold withQuery ofChangedParts at hempty ⊢
  rw [hlisted, List.find?_append, List.find?_append] at hempty ⊢
  split at hempty
  · cases hempty
  · rename_i hnone
    -- No other part is too long, so only the query may be.
    simp only [Option.or_eq_none_iff] at hnone
    obtain ⟨⟨hbefore, -⟩, hbehind⟩ := hnone
    rw [hbefore, hbehind, Option.none_or, Option.or_none, ofParts_with_query, hempty]
    by_cases hlong : lengthLimit < query.length
    · rw [List.find?_cons_of_pos (by simpa using hlong), if_pos hlong]
    · rw [List.find?_cons_of_neg (by simpa using hlong), if_neg hlong]
      rfl

end Url

/-- The object that holds the numbers of a vector: the embedding, or where there is none that of the
data. -/
inductive HeldBy : List (Text × Json) → List (Text × Json) → Prop
  | embedding {fields inner : List (Text × Json)}
      (hfield : Json.lookup "embedding" fields = some (.object inner)) : HeldBy fields inner
  | data {fields data inner : List (Text × Json)}
      (hnone : (Json.lookup "embedding" fields).getD .null = .null)
      (hdata : Json.lookup "data" fields = some (.object data))
      (hfield : Json.lookup "embedding" data = some (.object inner)) : HeldBy fields inner

/-- A JSON value that holds some numbers as a vector, under the one name or else the other. -/
structure Json.HoldsNumbers (value : Json) (items : List Json) : Prop where
  held : ∃ fields inner, value = .object fields ∧ HeldBy fields inner ∧
    (Json.lookup "values" inner <|> Json.lookup "value" inner) = some (.list items)
  ne_nil : items ≠ []
  numbers : ∀ item ∈ items, item.isNumber = true

/-- Some numbers of which one is an integer beyond all doubles. -/
def HasOutgrown (items : List Json) : Prop :=
  ∃ n, .integer n ∈ items ∧ Binary64.integerLimit ≤ n.natAbs

/-- A reply whose body holds some numbers as a vector. -/
def Reply.HoldsNumbers [Json.DepthLimit] (reply : Reply) (items : List Json) : Prop :=
  ∃ value, reply.json = .ok value ∧ value.HoldsNumbers items

namespace EmbeddingClient

/-- Only a field that is there has an object for its value. -/
theorem field_eq_object_iff {name : Text} {fields inner : List (Text × Json)} :
    field name fields = .object inner ↔ Json.lookup name fields = some (.object inner) := by
  rw [field]
  cases Json.lookup name fields with
  | none => exact ⟨nofun, nofun⟩
  | some value => rw [Option.getD_some, Option.some.injEq]

/-- What holds the vector is found under its names. -/
theorem holder_eq_object_iff {fields inner : List (Text × Json)} :
    holder fields = .object inner ↔ HeldBy fields inner := by
  unfold holder
  constructor
  · intro hholder
    split at hholder
    · rename_i data hnone hdata
      exact .data hnone (field_eq_object_iff.mp hdata) (field_eq_object_iff.mp hholder)
    · exact .embedding (field_eq_object_iff.mp hholder)
  · rintro (hfield | ⟨hnone, hdata, hfield⟩)
    · rw [field_eq_object_iff.mpr hfield]
    · rw [show field "embedding" fields = .null from hnone, field_eq_object_iff.mpr hdata]
      exact field_eq_object_iff.mpr hfield

/-- Numbers make a vector unless one of them is an integer beyond all doubles. -/
theorem vector_of_numbers {items : List Json} (hsome : items ≠ [])
    (hnumbers : ∀ item ∈ items, item.isNumber = true) :
    (∃ vector, vector ≠ [] ∧ Json.vector items = .ok vector ∧
        List.Forall₂ (fun item x => item.double? = some x) items vector) ∨
      HasOutgrown items ∧ Json.vector items = .error .beyondDoubles := by
  unfold Json.vector
  cases hdoubles : items.mapM Json.double? with
  | some vector =>
      have hpairs := mapM_eq_some_iff.mp hdoubles
      refine Or.inl ⟨vector, ?_, rfl, hpairs⟩
      rintro rfl
      exact hsome (List.forall₂_nil_right_iff.mp hpairs)
  | none =>
      obtain ⟨item, hitem, hnone⟩ := mapM_eq_none_iff.mp hdoubles
      obtain ⟨n, rfl, hlimit⟩ := (Json.double?_eq_none_iff (hnumbers item hitem)).mp hnone
      exact Or.inr ⟨⟨n, hitem, hlimit⟩, rfl⟩

theorem vector_of_outgrown {items : List Json} (houtgrown : HasOutgrown items) :
    Json.vector items = .error .beyondDoubles := by
  obtain ⟨n, hitem, hlimit⟩ := houtgrown
  have hnone : items.mapM Json.double? = none :=
    mapM_eq_none_iff.mpr ⟨_, hitem, (Json.double?_eq_none_iff rfl).mpr ⟨n, rfl, hlimit⟩⟩
  rw [Json.vector, hnone]

theorem vectorOf_of_holdsNumbers {value : Json} {items : List Json}
    (hholds : value.HoldsNumbers items) : vectorOf value = Json.vector items := by
  obtain ⟨⟨fields, inner, rfl, hheld, hlist⟩, hsome, hnumbers⟩ := hholds
  obtain ⟨item, items, rfl⟩ := List.exists_cons_of_ne_nil hsome
  rw [vectorOf, holder_eq_object_iff.mpr hheld]
  dsimp only
  rw [hlist]
  dsimp only
  rw [if_pos (List.all_eq_true.mpr hnumbers)]

/-- Any other value is malformed. -/
theorem vectorOf_of_not_holdsNumbers {value : Json} (hnone : ∀ items, ¬ value.HoldsNumbers items) :
    ∃ failure, vectorOf value = .error failure ∧ failure.kind = .embeddingMalformed := by
  unfold vectorOf
  split
  · rename_i fields
    dsimp only
    split
    · rename_i item items hlist
      split
      · rename_i hnumbers
        split at hlist
        · rename_i inner hholder
          exact absurd ⟨⟨fields, inner, rfl, holder_eq_object_iff.mp hholder, hlist⟩,
            List.cons_ne_nil _ _, List.all_eq_true.mp hnumbers⟩ (hnone (item :: items))
        · cases hlist
      · exact ⟨_, rfl, rfl⟩
    · exact ⟨_, rfl, rfl⟩
  · exact ⟨_, rfl, rfl⟩

/-- The query of a request, which holds the key. -/
def query (client : EmbeddingClient) : Text :=
  Text.formText [("key", client.key)]

/-- The address of a client apart from the key in its query. Its host can be shown, and it is
absolute, so that replies from there are accepted. -/
structure Addressed (client : EmbeddingClient) (address : Url) : Prop where
  reads : ∃ url whole, Url.read client.endpoint = .ok url ∧ Url.below {} url = .ok whole ∧
    whole.withQuery (some []) = .ok address
  shown : ∃ host, Url.Host.shown address.host = .ok host
  absolute : address.isAbsolute = true

/-- There is a key, it fits into the address, and the text can be written. -/
structure Sends (client : EmbeddingClient) (text : Text) : Prop where
  key_ne_nil : client.key ≠ []
  short : client.query.length ≤ Url.lengthLimit
  whole : Text.holdsSurrogate text = false

/-- Why the provider counts as unavailable. -/
inductive Unavailable (client : EmbeddingClient) (text : Text) : Delivery → Prop
  | keyMissing {delivery : Delivery} (hkey : client.key = []) : Unavailable client text delivery
  | undelivered {reason : Text} (hsends : client.Sends text) :
      Unavailable client text (.undelivered reason)
  | refused {reply : Reply} (hsends : client.Sends text) (hrefused : reply.isSuccess = false) :
      Unavailable client text (.replied reply)

variable {client : EmbeddingClient} {address : Url} {text : Text}

/-- The address of a request is that of the client with the key in its query, if it fits. -/
theorem writtenAddress_eq (haddress : client.Addressed address) :
    (Failure.ofAddress do
      let url ← Url.read client.endpoint
      (← Url.below {} url).withQuery (some client.query)) =
    if Url.lengthLimit < client.query.length then .error (.addressInvalid (.partTooLong .query))
    else .ok { address with query := some (Text.escaped Url.isQueryChar client.query) } := by
  obtain ⟨url, whole, hread, hbelow, hquery⟩ := haddress.reads
  rw [hread]
  show Failure.ofAddress (Url.below {} url >>= fun whole => whole.withQuery _) = _
  rw [hbelow]
  show Failure.ofAddress (whole.withQuery _) = _
  rw [Url.withQuery_eq hquery]
  split
  · rfl
  · rfl

theorem request_of_long (haddress : client.Addressed address)
    (hlong : Url.lengthLimit < client.query.length) :
    client.request text = .error (.addressInvalid (.partTooLong .query)) := by
  have haddress' := writtenAddress_eq haddress
  rw [if_pos hlong] at haddress'
  unfold request
  dsimp only
  rw [← query, haddress']
  rfl

theorem request_of_broken (haddress : client.Addressed address)
    (hshort : client.query.length ≤ Url.lengthLimit) (hbroken : Text.holdsSurrogate text = true) :
    client.request text = .error .textUnwritable := by
  have haddress' := writtenAddress_eq haddress
  rw [if_neg (Nat.not_lt.mpr hshort)] at haddress'
  unfold request
  dsimp only
  rw [← query, haddress', hbroken]
  rfl

theorem exists_request_of_sends (haddress : client.Addressed address)
    (hsends : client.Sends text) :
    ∃ request, client.request text = .ok request ∧ request.address.isAbsolute = true := by
  have haddress' := writtenAddress_eq haddress
  rw [if_neg (Nat.not_lt.mpr hsends.short)] at haddress'
  obtain ⟨host, hhost⟩ := haddress.shown
  unfold request
  dsimp only
  rw [← query, haddress', hsends.whole]
  show ∃ request, ((Url.Host.shown address.host).mapError Failure.hostUnreadable >>= _) =
    .ok request ∧ _
  rw [hhost]
  exact ⟨_, rfl, haddress.absolute⟩

section Replies

variable [Json.DepthLimit]

theorem vectorOfReply_of_holdsNumbers {reply : Reply} (hsuccess : reply.isSuccess = true)
    {items : List Json} (hholds : reply.HoldsNumbers items) :
    vectorOfReply reply = Json.vector items := by
  obtain ⟨value, hjson, hvalue⟩ := hholds
  rw [vectorOfReply, if_pos hsuccess, hjson]
  exact vectorOf_of_holdsNumbers hvalue

theorem vectorOfReply_of_deep {reply : Reply} (hsuccess : reply.isSuccess = true)
    (hdeep : reply.json = .error .nestedTooDeep) :
    vectorOfReply reply = .error .nestedTooDeep := by
  rw [vectorOfReply, if_pos hsuccess, hdeep]

/-- A success whose body can be read, and holds no vector, is malformed. -/
theorem vectorOfReply_of_not_holdsNumbers {reply : Reply} (hsuccess : reply.isSuccess = true)
    (hread : reply.json ≠ .error .nestedTooDeep) (hnone : ∀ items, ¬ reply.HoldsNumbers items) :
    ∃ failure, vectorOfReply reply = .error failure ∧ failure.kind = .embeddingMalformed := by
  rw [vectorOfReply, if_pos hsuccess]
  split
  · rename_i value hjson
    exact vectorOf_of_not_holdsNumbers fun items hholds => hnone items ⟨value, hjson, hholds⟩
  · exact absurd ‹_› hread
  · exact ⟨_, rfl, rfl⟩

theorem vectorOfReply_of_refused {reply : Reply} (hrefused : reply.isSuccess = false) :
    ∃ failure, vectorOfReply reply = .error failure ∧ failure.kind = .embeddingUnavailable := by
  rw [vectorOfReply, hrefused, if_neg Bool.false_ne_true]
  split
  · exact ⟨_, rfl, rfl⟩
  · exact ⟨_, rfl, rfl⟩

/-- Why a reply counts as malformed: it is a success that can be read and holds no vector. -/
inductive Malformed (client : EmbeddingClient) (text : Text) : Delivery → Prop
  | missing {reply : Reply} (hsends : client.Sends text) (hsuccess : reply.isSuccess = true)
      (hread : reply.json ≠ .error .nestedTooDeep) (hnone : ∀ items, ¬ reply.HoldsNumbers items) :
      Malformed client text (.replied reply)

/-- Why the result is a vector: a success holds numbers, and these are their doubles. -/
inductive Yields (client : EmbeddingClient) (text : Text) : Delivery → Vector64 → Prop
  | numbers {reply : Reply} {items : List Json} {vector : Vector64} (hsends : client.Sends text)
      (hsuccess : reply.isSuccess = true) (hholds : reply.HoldsNumbers items)
      (hdoubles : List.Forall₂ (fun item x => item.double? = some x) items vector) :
      Yields client text (.replied reply) vector

/-- The failures that are of neither kind, and what leads to each of them. -/
inductive Escapes (client : EmbeddingClient) (text : Text) : Delivery → Failure → Prop
  | keyTooLong {delivery : Delivery} (hkey : client.key ≠ [])
      (hlong : Url.lengthLimit < client.query.length) :
      Escapes client text delivery (.addressInvalid (.partTooLong .query))
  | textUnwritable {delivery : Delivery} (hkey : client.key ≠ [])
      (hshort : client.query.length ≤ Url.lengthLimit) (hbroken : Text.holdsSurrogate text = true) :
      Escapes client text delivery .textUnwritable
  | bodyTooDeep {reply : Reply} (hsends : client.Sends text) (hsuccess : reply.isSuccess = true)
      (hdeep : reply.json = .error .nestedTooDeep) :
      Escapes client text (.replied reply) .nestedTooDeep
  | numberOutgrown {reply : Reply} {items : List Json} (hsends : client.Sends text)
      (hsuccess : reply.isSuccess = true) (hholds : reply.HoldsNumbers items)
      (houtgrown : HasOutgrown items) :
      Escapes client text (.replied reply) .beyondDoubles

theorem Escapes.kind_ne {delivery : Delivery} {failure : Failure}
    (hescapes : client.Escapes text delivery failure) :
    failure.kind ≠ .embeddingUnavailable ∧ failure.kind ≠ .embeddingMalformed := by
  cases hescapes <;> exact ⟨nofun, nofun⟩

/-- A request that is sent ends as the provider is reached and replies. -/
theorem embed_of_sends (haddress : client.Addressed address) (hsends : client.Sends text)
    (deliver : Text → Delivery) :
    (∀ reply, deliver text = .replied reply →
      (client.embed deliver text).outcome =
        match vectorOfReply reply with
        | .ok vector => .done vector
        | .error failure => .failed failure) ∧
    ∀ reason, deliver text = .undelivered reason →
      (client.embed deliver text).outcome = .failed (.embeddingUndelivered reason) := by
  obtain ⟨request, hrequest, habsolute⟩ := exists_request_of_sends haddress hsends
  have hkey : ¬ client.key.isEmpty = true := by simpa using hsends.key_ne_nil
  unfold embed
  rw [if_neg hkey, hrequest]
  dsimp only
  refine ⟨fun reply hreply => ?_, fun reason hreason => ?_⟩
  · rw [hreply]
    exact if_pos habsolute
  · rw [hreason, outcome]

/-- The failures that are of neither kind do come about. -/
theorem embed_of_escapes (haddress : client.Addressed address) {deliver : Text → Delivery}
    {failure : Failure} (hescapes : client.Escapes text (deliver text) failure) :
    (client.embed deliver text).outcome = .failed failure := by
  generalize hdelivery : deliver text = delivery at hescapes
  cases hescapes with
  | keyTooLong hkey hlong =>
      rw [embed, if_neg (by simpa using hkey), request_of_long haddress hlong]
      rfl
  | textUnwritable hkey hshort hbroken =>
      rw [embed, if_neg (by simpa using hkey), request_of_broken haddress hshort hbroken]
      rfl
  | bodyTooDeep hsends hsuccess hdeep =>
      rw [(embed_of_sends haddress hsends deliver).1 _ hdelivery,
        vectorOfReply_of_deep hsuccess hdeep]
  | numberOutgrown hsends hsuccess hholds houtgrown =>
      rw [(embed_of_sends haddress hsends deliver).1 _ hdelivery,
        vectorOfReply_of_holdsNumbers hsuccess hholds, vector_of_outgrown houtgrown]

/-- How a request that is sent, and replied to by a success, ends. -/
theorem embed_of_success (haddress : client.Addressed address) (hsends : client.Sends text)
    {deliver : Text → Delivery} {reply : Reply} (hreply : deliver text = .replied reply)
    (hsuccess : reply.isSuccess = true) :
    (∃ vector, vector ≠ [] ∧ (client.embed deliver text).outcome = .done vector ∧
        client.Yields text (.replied reply) vector) ∨
      (∃ failure, (client.embed deliver text).outcome = .failed failure ∧
        failure.kind = .embeddingMalformed ∧ client.Malformed text (.replied reply)) ∨
      ∃ failure, client.Escapes text (.replied reply) failure := by
  have houtcome := (embed_of_sends haddress hsends deliver).1 reply hreply
  by_cases hdeep : reply.json = .error .nestedTooDeep
  · exact Or.inr (Or.inr ⟨_, .bodyTooDeep hsends hsuccess hdeep⟩)
  by_cases hnone : ∀ items, ¬ reply.HoldsNumbers items
  · obtain ⟨failure, hfailed, hkind⟩ := vectorOfReply_of_not_holdsNumbers hsuccess hdeep hnone
    rw [hfailed] at houtcome
    exact Or.inr (Or.inl ⟨failure, houtcome, hkind, .missing hsends hsuccess hdeep hnone⟩)
  · obtain ⟨items, hholds⟩ := not_forall_not.mp hnone
    rw [vectorOfReply_of_holdsNumbers hsuccess hholds] at houtcome
    obtain ⟨value, hjson, hvalue⟩ := hholds
    rcases vector_of_numbers hvalue.ne_nil hvalue.numbers with
      ⟨vector, hsome, hdone, hdoubles⟩ | ⟨houtgrown, -⟩
    · rw [hdone] at houtcome
      exact Or.inl
        ⟨vector, hsome, houtcome, .numbers hsends hsuccess ⟨value, hjson, hvalue⟩ hdoubles⟩
    · exact Or.inr (Or.inr ⟨_, .numberOutgrown hsends hsuccess ⟨value, hjson, hvalue⟩ houtgrown⟩)

/-- Every request that is replied to or fails on the way ends in one of four ways. -/
theorem embed_cases (haddress : client.Addressed address) {deliver : Text → Delivery}
    (hends : (∃ reply, deliver text = .replied reply) ∨
      ∃ reason, deliver text = .undelivered reason) :
    (∃ vector, vector ≠ [] ∧ (client.embed deliver text).outcome = .done vector ∧
        client.Yields text (deliver text) vector) ∨
      (∃ failure, (client.embed deliver text).outcome = .failed failure ∧
        (failure.kind = .embeddingUnavailable ∧ client.Unavailable text (deliver text) ∨
          failure.kind = .embeddingMalformed ∧ client.Malformed text (deliver text))) ∨
      ∃ failure, client.Escapes text (deliver text) failure := by
  by_cases hkey : client.key = []
  · refine Or.inr (Or.inl ⟨.embeddingKeyMissing, ?_, Or.inl ⟨rfl, .keyMissing hkey⟩⟩)
    rw [embed, hkey]
    rfl
  by_cases hlong : Url.lengthLimit < client.query.length
  · exact Or.inr (Or.inr ⟨_, .keyTooLong hkey hlong⟩)
  rw [Nat.not_lt] at hlong
  cases hbroken : Text.holdsSurrogate text with
  | true => exact Or.inr (Or.inr ⟨_, .textUnwritable hkey hlong hbroken⟩)
  | false =>
      have hsends : client.Sends text := ⟨hkey, hlong, hbroken⟩
      rcases hends with ⟨reply, hreply⟩ | ⟨reason, hreason⟩
      · rw [hreply]
        cases hsuccess : reply.isSuccess with
        | true =>
            rcases embed_of_success haddress hsends hreply hsuccess with
              hdone | ⟨failure, hfailed, hkind, hmalformed⟩ | hescapes
            · exact Or.inl hdone
            · exact Or.inr (Or.inl ⟨failure, hfailed, Or.inr ⟨hkind, hmalformed⟩⟩)
            · exact Or.inr (Or.inr hescapes)
        | false =>
            obtain ⟨failure, hfailed, hkind⟩ := vectorOfReply_of_refused hsuccess
            have houtcome := (embed_of_sends haddress hsends deliver).1 reply hreply
            rw [hfailed] at houtcome
            exact Or.inr (Or.inl ⟨failure, houtcome, Or.inl ⟨hkind, .refused hsends hsuccess⟩⟩)
      · have houtcome := (embed_of_sends haddress hsends deliver).2 reason hreason
        rw [hreason]
        exact Or.inr (Or.inl ⟨_, houtcome, Or.inl ⟨rfl, .undelivered hsends⟩⟩)

/-- An embedding that is replied to, or fails on the way, gives a vector that is not empty or fails
since the provider is unavailable or its reply malformed, unless one of four causes lets another
failure escape. A vector is that of the numbers in a successful reply; the provider is unavailable
without a key, where it is not reached and where it refuses; and a reply is malformed where it is a
success that can be read and holds no vector. -/
theorem embed_keeps_kinds_iff (haddress : client.Addressed address) {deliver : Text → Delivery}
    (hends : (∃ reply, deliver text = .replied reply) ∨
      ∃ reason, deliver text = .undelivered reason) :
    let outcome := (client.embed deliver text).outcome
    let delivery := deliver text
    ((∃ vector, vector ≠ [] ∧ outcome = .done vector) ∨
        (∃ failure, outcome = .failed failure ∧
          (failure.kind = .embeddingUnavailable ∨ failure.kind = .embeddingMalformed)) ↔
      ∀ failure, ¬ client.Escapes text delivery failure) ∧
    (∀ vector, outcome = .done vector → client.Yields text delivery vector) ∧
    (∀ failure, outcome = .failed failure →
      (failure.kind = .embeddingUnavailable → client.Unavailable text delivery) ∧
      (failure.kind = .embeddingMalformed → client.Malformed text delivery)) ∧
    ∀ failure, client.Escapes text delivery failure → outcome = .failed failure := by
  intro outcome delivery
  have hescaped : ∀ failure, client.Escapes text delivery failure → outcome = .failed failure :=
    fun failure => embed_of_escapes haddress
  have hall := embed_cases haddress hends
  refine ⟨⟨?_, fun hnone => ?_⟩, fun vector hdone => ?_, fun failure hfailed => ?_, hescaped⟩
  · rintro hkept failure hescapes
    obtain ⟨hother, hmalformed⟩ := hescapes.kind_ne
    have hfailed := hescaped failure hescapes
    rcases hkept with ⟨vector, -, hdone⟩ | ⟨found, hfound, hkind⟩
    · cases hfailed.symm.trans hdone
    · cases hfailed.symm.trans hfound
      exact hkind.elim hother hmalformed
  · rcases hall with ⟨vector, hsome, hdone, -⟩ | ⟨failure, hfailed, hkind⟩ | ⟨failure, hescapes⟩
    · exact Or.inl ⟨vector, hsome, hdone⟩
    · exact Or.inr ⟨failure, hfailed, hkind.imp And.left And.left⟩
    · exact absurd hescapes (hnone failure)
  · rcases hall with ⟨found, -, hfound, hyields⟩ | ⟨failure, hfailed, -⟩ | ⟨failure, hescapes⟩
    · cases hdone.symm.trans hfound
      exact hyields
    · cases hdone.symm.trans hfailed
    · cases hdone.symm.trans (hescaped failure hescapes)
  · rcases hall with ⟨found, -, hfound, -⟩ | ⟨other, hother, hkind⟩ | ⟨other, hescapes⟩
    · cases hfailed.symm.trans hfound
    · cases hfailed.symm.trans hother
      rcases hkind with ⟨hkind, hcause⟩ | ⟨hkind, hcause⟩
      · refine ⟨fun _ => hcause, fun hmalformed => ?_⟩
        cases hkind.symm.trans hmalformed
      · refine ⟨fun hunavailable => ?_, fun _ => hcause⟩
        cases hkind.symm.trans hunavailable
    · cases hfailed.symm.trans (hescaped other hescapes)
      exact ⟨fun h => absurd h hescapes.kind_ne.1, fun h => absurd h hescapes.kind_ne.2⟩

end Replies

/-- The client for the key of one letter and the settings as they come. -/
def plainClient : EmbeddingClient :=
  ofSettings {} (some "k") none none

/-- The address of that client with an empty query. -/
def plainAddress : Url where
  scheme := "https"
  host := "generativelanguage.googleapis.com"
  path := "/v1beta/models/text-embedding-004:embedContent"
  query := some []

theorem plainClient_addressed : plainClient.Addressed plainAddress where
  reads := ⟨{ plainAddress with query := none }, { plainAddress with query := none },
    by decide +kernel, by decide +kernel, by decide +kernel⟩
  shown := ⟨plainAddress.host, by decide +kernel⟩
  absolute := by decide

/-- A reply in the older form, with one name for the numbers. -/
def olderReply : Reply where
  body := .bytes (Text.utf8 "\x7b\"embedding\":\x7b\"value\":[1]\x7d\x7d")

theorem embed_keeps_kinds_iff_of_olderReply :
    let deliver : Text → Delivery := fun _ => .replied olderReply
    (plainClient.Addressed plainAddress ∧ ∃ reply, deliver "t" = .replied reply) ∧
      (plainClient.embed deliver "t").outcome = .done [.one] ∧
      plainClient.Yields "t" (.replied olderReply) [.one] ∧
      ∀ failure, ¬ plainClient.Escapes "t" (.replied olderReply) failure := by
  intro deliver
  have hends : ∃ reply, deliver "t" = .replied reply := ⟨olderReply, rfl⟩
  have hdone : (plainClient.embed deliver "t").outcome = .done [.one] := by decide +kernel
  obtain ⟨hkept, hyields, -⟩ := embed_keeps_kinds_iff plainClient_addressed (Or.inl hends)
  exact ⟨⟨plainClient_addressed, hends⟩, hdone, hyields [.one] hdone,
    hkept.mp (Or.inl ⟨[.one], nofun, hdone⟩)⟩

/-- A reply with an integer beyond all doubles among its numbers. -/
def outgrownReply : Reply where
  body := .bytes
    (Text.utf8 ("\x7b\"embedding\":\x7b\"values\":".toList ++ Store.outgrownText ++ "\x7d\x7d"))

/-- Such a reply ends an embedding neither with a vector nor with a failure of the two kinds. -/
theorem embed_of_outgrownReply :
    let outcome := (plainClient.embed (fun _ => .replied outgrownReply) "t").outcome
    outcome = .failed .beyondDoubles ∧
      ¬ ((∃ vector, vector ≠ [] ∧ outcome = .done vector) ∨
        ∃ failure, outcome = .failed failure ∧
          (failure.kind = .embeddingUnavailable ∨ failure.kind = .embeddingMalformed)) := by
  intro outcome
  have hfailed : outcome = .failed .beyondDoubles := by decide +kernel
  refine ⟨hfailed, ?_⟩
  rw [hfailed]
  rintro (⟨vector, -, hdone⟩ | ⟨failure, hfound, hkind⟩)
  · cases hdone
  · cases hfound
    rcases hkind with hkind | hkind
    · cases hkind
    · cases hkind

end EmbeddingClient

end ScriptDocs
