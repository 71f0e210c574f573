import Mathlib.Data.List.Forall2
import TokenGate.Proofs.Rpc.Envelope
import TokenGate.Rpc.Router
/-!
The answers of a router. Every payload gets envelopes, and each of them bears the id of the request
that it answers: a batch gets one for each of its requests, in order, and any other payload one.
-/
namespace TokenGate

/-- Reading a text and decoding it into any value are the same, but for how a failure is told. -/
theorem Json.Decoder.decode_any (text : String) :
    Decoder.any.decode text =
      (read text).mapError fun f => .malformed f.cause (Position.ofLeft text f.left) := by
  simp only [decode, any, read]
  cases readValue maxDepth text.toList with
  | error f => rfl
  | ok r =>
    obtain ⟨j, rest⟩ := r
    simp only [orMalformed, Except.mapError, bind, Except.bind]
    cases finish rest with
    | error f => rfl
    | ok u => rfl

namespace Rpc

/-- What a request may bear as its id: a number, or a text of 1 to 256 bytes. -/
def IsId : Json → Prop
  | .num _ => True
  | .str s => 1 ≤ s.utf8ByteSize ∧ s.utf8ByteSize ≤ 256
  | _ => False

instance : DecidablePred IsId
  | .num _ => .isTrue trivial
  | .str s => inferInstanceAs (Decidable (1 ≤ s.utf8ByteSize ∧ s.utf8ByteSize ≤ 256))
  | .null => .isFalse id
  | .bool _ => .isFalse id
  | .arr _ => .isFalse id
  | .obj _ => .isFalse id

/-- The id of a request, if that is one, and null otherwise. -/
def responseId (request : Json) : Json :=
  match request.get? "id" with
  | some id => if IsId id then id else .null
  | none => .null

/-- A request that asks for a call of a method. Its id and its version may be missing. -/
structure AsksFor (request : Json) (method : String) : Prop where
  object : ∃ members, request = .obj members
  id : ∀ id, request.get? "id" = some id → IsId id
  version : ∀ version, request.get? "jsonrpc" = some version → version = .str "2.0"
  method : request.get? "method" = some (.str method)

/-- An object that tells an error by a code of 32 bits and a message. -/
structure IsError (j : Json) : Prop where
  code : ∃ code : Int32, j.get? "code" = some (.num (.int code.toInt (Json.int32_inRange code)))
  message : ∃ message, j.get? "message" = some (.str message)

/-- A response with an id: it has a version, the id, and either a result or an error. -/
structure IsEnvelope (id response : Json) : Prop where
  members : ∃ members, response = .obj members ∧
    (members.map Prod.fst = ["id", "jsonrpc", "result"] ∨
      members.map Prod.fst = ["error", "id", "jsonrpc"])
  version : response.get? "jsonrpc" = some (.str "2.0")
  id : response.get? "id" = some id
  error : ∀ e, response.get? "error" = some e → IsError e

theorem isError_toValue (e : Error) : IsError e.toValue := by
  obtain ⟨code, message, data⟩ := e
  rw [Error.toValue_eq, Json.ofInt_eq_num (Json.int32_inRange code)]
  cases data with
  | none => exact ⟨⟨code, rfl⟩, ⟨message, rfl⟩⟩
  | some d => exact ⟨⟨code, rfl⟩, ⟨message, rfl⟩⟩

theorem isEnvelope_success (id result : Json) : IsEnvelope id (success id result) := by
  refine ⟨⟨_, rfl, .inl rfl⟩, rfl, rfl, ?_⟩
  intro e he
  cases he

theorem isEnvelope_failure (id : Json) (e : Error) : IsEnvelope id (failure id e) := by
  refine ⟨⟨_, rfl, .inr rfl⟩, rfl, rfl, ?_⟩
  intro j hj
  cases hj
  exact isError_toValue e

theorem isEnvelope_respond (id : Json) (r : Except Error Json) : IsEnvelope id (respond id r) := by
  cases r with
  | ok result => exact isEnvelope_success id result
  | error e => exact isEnvelope_failure id e

theorem IsEnvelope.ne_arr {id response : Json} (h : IsEnvelope id response) (items : List Json) :
    response ≠ .arr items := by
  obtain ⟨members, rfl, -⟩ := h.members
  exact Json.noConfusion

theorem validateId_of_isId {id : Json} (h : IsId id) : validateId (some id) = .ok id := by
  cases id with
  | num n => rfl
  | str s =>
    obtain ⟨hl, hu⟩ := h
    have hmax : ¬ maxIdLength < s.utf8ByteSize := Nat.not_lt.2 hu
    rw [validateId, if_neg (Nat.ne_of_gt hl), if_neg hmax]
  | null => exact h.elim
  | bool b => exact h.elim
  | arr items => exact h.elim
  | obj members => exact h.elim

theorem validateId_of_not_isId {id : Json} (h : ¬ IsId id) :
    ∃ e, validateId (some id) = .error e := by
  cases id with
  | num n => exact (h trivial).elim
  | str s =>
    rw [validateId]
    split
    · exact ⟨_, rfl⟩
    · next hl =>
      have hu : maxIdLength < s.utf8ByteSize := by
        by_contra hu
        exact h ⟨Nat.pos_of_ne_zero hl, Nat.not_lt.1 hu⟩
      exact ⟨_, if_pos hu⟩
  | null => exact ⟨_, rfl⟩
  | bool b => exact ⟨_, rfl⟩
  | arr items => exact ⟨_, rfl⟩
  | obj members => exact ⟨_, rfl⟩

/-- The check of the id of a request gives the id of the response, or refuses it. -/
theorem validateId_get? (request : Json) :
    (validateId (request.get? "id") = .ok (responseId request) ∧
      ∀ id, request.get? "id" = some id → IsId id) ∨
    (∃ e, validateId (request.get? "id") = .error e) ∧ responseId request = .null ∧
      ∃ id, request.get? "id" = some id ∧ ¬ IsId id := by
  rw [responseId]
  cases request.get? "id" with
  | none =>
    refine .inl ⟨rfl, ?_⟩
    intro id he
    cases he
  | some id =>
    by_cases h : IsId id
    · refine .inl ⟨?_, fun id' he => Option.some.inj he ▸ h⟩
      simp only [if_pos h, validateId_of_isId h]
    · exact .inr ⟨validateId_of_not_isId h, if_neg h, id, rfl, h⟩

namespace Router

variable {caller : Caller}

/-- A request that asks for a call is answered by what routing gives for it. -/
theorem handleRequest_of_asksFor (h : AsksFor request method) (r : Router) (caller : Caller) :
    r.handleRequest request caller =
      respond (responseId request)
        (r.dispatcher.dispatch method (request.get? "params") caller) := by
  obtain ⟨members, rfl⟩ := h.object
  rcases validateId_get? (.obj members) with ⟨hv, -⟩ | ⟨-, -, id, hi, hne⟩
  · simp only [handleRequest, hv, h.method]
    split
    · rfl
    · rfl
    · next v hne hv => exact (hne (h.version v hv)).elim
  · exact (hne (h.id id hi)).elim

/-- Any other request is answered by an error, whatever the services are. -/
theorem handleRequest_of_not_asksFor (h : ∀ method, ¬ AsksFor request method) :
    ∃ e, ∀ (r : Router) (caller : Caller),
      r.handleRequest request caller = failure (responseId request) e := by
  cases request with
  | obj members =>
    rcases validateId_get? (.obj members) with ⟨hv, hid⟩ | ⟨⟨e, he⟩, hn, -⟩
    · by_cases hver : ∀ version, Json.get? "jsonrpc" (.obj members) = some version →
          version = .str "2.0"
      · refine ⟨.invalidRequest "missing method", ?_⟩
        intro r caller
        have hm (method : String) :
            Json.get? "method" (.obj members) ≠ some (.str method) :=
          fun hm => h method ⟨⟨members, rfl⟩, hid, hver, hm⟩
        simp only [handleRequest, hv]
        split
        · rfl
        · rfl
        · next v hne he => exact (hne (hver v he)).elim
      · refine ⟨.invalidRequest "jsonrpc must be \"2.0\"", ?_⟩
        intro r caller
        push Not at hver
        obtain ⟨version, hj, hne⟩ := hver
        simp only [handleRequest, hv, hj]
    · refine ⟨e, ?_⟩
      intro r caller
      rw [handleRequest, he, hn]
  | null => exact ⟨_, fun _ _ => rfl⟩
  | bool b => exact ⟨_, fun _ _ => rfl⟩
  | num n => exact ⟨_, fun _ _ => rfl⟩
  | str s => exact ⟨_, fun _ _ => rfl⟩
  | arr items => exact ⟨_, fun _ _ => rfl⟩

theorem isEnvelope_handleRequest (r : Router) (request : Json) (caller : Caller) :
    IsEnvelope (responseId request) (r.handleRequest request caller) := by
  by_cases h : ∃ method, AsksFor request method
  · obtain ⟨method, h⟩ := h
    rw [handleRequest_of_asksFor h]
    exact isEnvelope_respond _ _
  · obtain ⟨e, he⟩ := handleRequest_of_not_asksFor (not_exists.1 h)
    rw [he]
    exact isEnvelope_failure _ e

/-- Of a dispatcher, nothing but its results for the calls that a request asks for shows in the
answer. -/
theorem handleRequest_congr_asksFor {d d' : Dispatcher}
    (h : ∀ method, AsksFor request method →
      d.dispatch method (request.get? "params") caller =
        d'.dispatch method (request.get? "params") caller) (max : Nat) :
    (Router.mk d max).handleRequest request caller =
      (Router.mk d' max).handleRequest request caller := by
  by_cases ha : ∃ method, AsksFor request method
  · obtain ⟨method, ha⟩ := ha
    rw [handleRequest_of_asksFor ha, handleRequest_of_asksFor ha, h method ha]
  · obtain ⟨e, he⟩ := handleRequest_of_not_asksFor (not_exists.1 ha)
    rw [he, he]

theorem handleValue_of_ne_arr {request : Json} (h : ∀ items, request ≠ .arr items) (r : Router)
    (caller : Caller) : r.handleValue request caller = r.handleRequest request caller := by
  cases request with
  | arr items => exact (h items rfl).elim
  | null | bool | num | str | obj => rfl

/-- A batch that is not empty nor too long is answered request by request. -/
theorem handleValue_batch {r : Router} {requests : List Json} (hl : 1 ≤ requests.length)
    (hu : requests.length ≤ r.maxBatchSize) (caller : Caller) :
    r.handleValue (.arr requests) caller =
      .arr (requests.map fun request => r.handleRequest request caller) := by
  have he : requests.isEmpty = false := by
    rw [List.isEmpty_eq_false_iff]
    exact List.length_pos_iff.1 hl
  rw [handleValue, he, if_neg Bool.false_ne_true, if_neg (Nat.not_lt.2 hu)]

theorem handleValue_of_not_batch {max : Nat} {requests : List Json}
    (h : ¬ (1 ≤ requests.length ∧ requests.length ≤ max)) :
    ∃ e, ∀ d caller, (Router.mk d max).handleValue (.arr requests) caller = failure .null e := by
  cases requests with
  | nil => exact ⟨_, fun _ _ => rfl⟩
  | cons request rest =>
    have hu : max < (request :: rest).length := by
      by_contra hu
      exact h ⟨Nat.le_add_left _ _, Nat.not_lt.1 hu⟩
    refine ⟨.limitExceeded s!"batch of {(request :: rest).length} exceeds maximum of {max}", ?_⟩
    intro d caller
    rw [handleValue, List.isEmpty_cons, if_neg Bool.false_ne_true, if_pos hu]

theorem handleBody_of_read? (h : Json.read? body = some j) (r : Router) (caller : Caller) :
    r.handleBody body caller = r.handleValue j caller := by
  rw [handleBody, Json.Decoder.decode_any, Json.read?_eq_some.1 h]
  rfl

theorem handleBody_of_read?_eq_none (h : Json.read? body = none) :
    ∃ details, ∀ (r : Router) (caller : Caller),
      r.handleBody body caller = failure .null (.parse details) := by
  rw [Json.read?] at h
  cases hr : Json.read body with
  | ok j =>
    rw [hr] at h
    cases h
  | error f =>
    refine ⟨(Json.DecodeError.malformed f.cause (.ofLeft body f.left)).message, ?_⟩
    intro r caller
    rw [handleBody, Json.Decoder.decode_any, hr]
    rfl

/-- What a router answers to a request of a batch: an envelope with the id of the request, and the
same that it answers to this request alone, unless that would be a batch in its turn. -/
structure Answers (r : Router) (caller : Caller) (request answer : Json) : Prop where
  envelope : IsEnvelope (responseId request) answer
  alone : (∀ items, request ≠ .arr items) → r.handleValue request caller = answer ∧
    ∀ body, Json.read? body = some request → r.handleBody body caller = answer
  nested : ∀ items, request = .arr items →
    answer = failure .null (.invalidRequest "request must be an object")

theorem answers_handleRequest (r : Router) (caller : Caller) (request : Json) :
    r.Answers caller request (r.handleRequest request caller) := by
  refine ⟨isEnvelope_handleRequest r request caller, ?_, ?_⟩
  · intro h
    refine ⟨handleValue_of_ne_arr h r caller, ?_⟩
    intro body hb
    rw [handleBody_of_read? hb, handleValue_of_ne_arr h]
  · rintro items rfl
    rfl

/-- The requests that a payload holds: those of a batch, or the payload itself. -/
def requestsOf : Json → List Json
  | .arr requests => requests
  | request => [request]

theorem requestsOf_of_ne_arr {payload : Json} (h : ∀ items, payload ≠ .arr items) :
    requestsOf payload = [payload] := by
  cases payload with
  | arr items => exact (h items rfl).elim
  | null | bool | num | str | obj => rfl

/-- Of a dispatcher, nothing but its results for the calls that requests of the payload ask for
shows in the answer. -/
theorem handleValue_congr_asksFor {d d' : Dispatcher} {payload : Json}
    (h : ∀ request ∈ requestsOf payload, ∀ method, AsksFor request method →
      d.dispatch method (request.get? "params") caller =
        d'.dispatch method (request.get? "params") caller) (max : Nat) :
    (Router.mk d max).handleValue payload caller =
      (Router.mk d' max).handleValue payload caller := by
  by_cases ha : ∃ requests, payload = .arr requests
  · obtain ⟨requests, rfl⟩ := ha
    by_cases hb : 1 ≤ requests.length ∧ requests.length ≤ max
    · obtain ⟨hl, hu⟩ := hb
      rw [handleValue_batch hl hu, handleValue_batch hl hu]
      refine congrArg Json.arr (List.map_congr_left ?_)
      intro request hr
      exact handleRequest_congr_asksFor (h request hr) max
    · obtain ⟨e, he⟩ := handleValue_of_not_batch hb
      rw [he, he]
  · have hn : ∀ items, payload ≠ .arr items := not_exists.1 ha
    rw [handleValue_of_ne_arr hn, handleValue_of_ne_arr hn]
    rw [requestsOf_of_ne_arr hn] at h
    exact handleRequest_congr_asksFor (h payload (List.mem_singleton_self _)) max

/-- A payload is a batch that is answered request by request, or gets one envelope. -/
theorem handleBody_batch_or_single (r : Router) (body : String) (caller : Caller) :
    (∃ requests, Json.read? body = some (.arr requests) ∧
      (1 ≤ requests.length ∧ requests.length ≤ r.maxBatchSize) ∧
      r.handleBody body caller =
        .arr (requests.map fun request => r.handleRequest request caller)) ∨
    (∀ requests, Json.read? body = some (.arr requests) →
      ¬ (1 ≤ requests.length ∧ requests.length ≤ r.maxBatchSize)) ∧
      IsEnvelope (((Json.read? body).map responseId).getD .null) (r.handleBody body caller) := by
  cases hb : Json.read? body with
  | none =>
    obtain ⟨e, he⟩ := handleBody_of_read?_eq_none hb
    rw [he]
    refine .inr ⟨?_, isEnvelope_failure _ _⟩
    intro requests he
    cases he
  | some payload =>
    rw [handleBody_of_read? hb, Option.map_some, Option.getD_some]
    by_cases ha : ∃ requests, payload = .arr requests
    · obtain ⟨requests, rfl⟩ := ha
      by_cases hl : 1 ≤ requests.length ∧ requests.length ≤ r.maxBatchSize
      · exact .inl ⟨requests, rfl, hl, handleValue_batch hl.1 hl.2 caller⟩
      · obtain ⟨e, he⟩ := handleValue_of_not_batch hl
        refine .inr ⟨?_, ?_⟩
        · rintro _ ⟨⟩
          exact hl
        · rw [he r.dispatcher caller]
          exact isEnvelope_failure _ e
    · have hn : ∀ items, payload ≠ .arr items := not_exists.1 ha
      refine .inr ⟨fun requests he => (hn requests (Option.some.inj he)).elim, ?_⟩
      rw [handleValue_of_ne_arr hn]
      exact isEnvelope_handleRequest r payload caller

theorem handleBody_congr_asksFor {d d' : Dispatcher} {body : String}
    (h : ∀ payload, Json.read? body = some payload → ∀ request ∈ requestsOf payload,
      ∀ method, AsksFor request method →
        d.dispatch method (request.get? "params") caller =
          d'.dispatch method (request.get? "params") caller) (max : Nat) :
    (Router.mk d max).handleBody body caller = (Router.mk d' max).handleBody body caller := by
  cases hb : Json.read? body with
  | none =>
    obtain ⟨e, he⟩ := handleBody_of_read?_eq_none hb
    rw [he, he]
  | some payload =>
    rw [handleBody_of_read? hb, handleBody_of_read? hb]
    exact handleValue_congr_asksFor (h payload hb) max

/-- A payload is answered by a list exactly if it is a batch that is not empty nor too long, with
one envelope for each of its requests, in order, and by one envelope otherwise. Each has the id of
its request, and is what this request alone gets. Services are called for nothing but the calls that
requests ask for. -/
theorem handleBody_answers (r : Router) (body : String) (caller : Caller) :
    (∀ n, (∃ answers, r.handleBody body caller = .arr answers ∧ answers.length = n) ↔
      ∃ requests, Json.read? body = some (.arr requests) ∧ requests.length = n ∧
        1 ≤ n ∧ n ≤ r.maxBatchSize) ∧
    (∀ answers, r.handleBody body caller = .arr answers →
      ∃ requests, Json.read? body = some (.arr requests) ∧
        List.Forall₂ (r.Answers caller) requests answers) ∧
    ((∀ answers, r.handleBody body caller ≠ .arr answers) →
      IsEnvelope (((Json.read? body).map responseId).getD .null) (r.handleBody body caller)) ∧
    (∀ d : Dispatcher,
      (∀ payload, Json.read? body = some payload → ∀ request ∈ requestsOf payload,
        ∀ method, AsksFor request method →
          d.dispatch method (request.get? "params") caller =
            r.dispatcher.dispatch method (request.get? "params") caller) →
      (Router.mk d r.maxBatchSize).handleBody body caller = r.handleBody body caller) := by
  refine ⟨?_, ?_, ?_, fun d hd => handleBody_congr_asksFor hd r.maxBatchSize⟩
  · intro n
    rcases r.handleBody_batch_or_single body caller with ⟨requests, hb, hl, ha⟩ | ⟨hn, he⟩
    · constructor
      · rintro ⟨answers, hr, rfl⟩
        cases hr.symm.trans ha
        rw [List.length_map]
        exact ⟨requests, hb, rfl, hl⟩
      · rintro ⟨requests', hb', rfl, -⟩
        cases hb.symm.trans hb'
        exact ⟨_, ha, List.length_map _⟩
    · constructor
      · rintro ⟨answers, hr, -⟩
        exact (he.ne_arr answers hr).elim
      · rintro ⟨requests, hb, rfl, hl⟩
        exact (hn requests hb hl).elim
  · intro answers ha
    rcases r.handleBody_batch_or_single body caller with ⟨requests, hb, hl, hm⟩ | ⟨hn, he⟩
    · refine ⟨requests, hb, ?_⟩
      cases ha.symm.trans hm
      rw [List.forall₂_map_right_iff, List.forall₂_same]
      exact fun request _ => r.answers_handleRequest caller request
    · exact (he.ne_arr answers ha).elim
  · intro hn
    rcases r.handleBody_batch_or_single body caller with ⟨requests, -, -, ha⟩ | ⟨-, he⟩
    · exact (hn _ ha).elim
    · exact he

theorem handleBody_answers_three :
    let call : Json := .obj [("id", .int 7), ("method", .str "a_f")]
    let batch : Json := .arr [call, .arr [call], .obj [("id", .str "")]]
    let api : Api := { name := "a", service := fun _ _ => .ok (.bool true) }
    let r : Router := ⟨⟨⟨[api], by simp⟩, .all⟩, 3⟩
    ∃ first second third,
      r.handleBody batch.text .anonymous = .arr [first, second, third] ∧
      r.handleBody call.text .anonymous = first ∧ first.get? "id" = some (.int 7) ∧
      second = failure .null (.invalidRequest "request must be an object") ∧
      third.get? "id" = some .null := by
  intro call batch api r
  have hcall (n : Nat) : Json.Plain (n + 1) call := by
    refine .obj (List.pairwise_cons.2 ⟨?_, List.pairwise_singleton _ _⟩) ?_
    · simp only [List.forall_mem_cons]
      decide
    · simp only [List.forall_mem_cons]
      exact ⟨.int, .str, List.forall_mem_nil _⟩
  have hbatch : Json.Plain 127 batch := by
    refine .arr ?_
    simp only [List.forall_mem_cons]
    refine ⟨hcall _, .arr ?_, .obj (List.pairwise_singleton _ _) ?_, List.forall_mem_nil _⟩
    · simp only [List.forall_mem_cons]
      exact ⟨hcall _, List.forall_mem_nil _⟩
    · simp only [List.forall_mem_cons]
      exact ⟨.str, List.forall_mem_nil _⟩
  have hread : Json.read? batch.text = some batch := Json.read?_eq_some.2 hbatch.read_text
  obtain ⟨hlist, heach, -, -⟩ := r.handleBody_answers batch.text .anonymous
  obtain ⟨answers, ha, -⟩ := (hlist 3).2 ⟨_, hread, rfl, by decide, by decide⟩
  obtain ⟨requests, hr, hpair⟩ := heach answers ha
  obtain rfl := Json.arr.inj (Option.some.inj (hr.symm.trans hread))
  obtain _ | ⟨h₁, _ | ⟨h₂, _ | ⟨h₃, _ | _⟩⟩⟩ := hpair
  have halone :=
    (h₁.alone fun _ => Json.noConfusion).2 _ (Json.read?_eq_some.2 (hcall 126).read_text)
  exact ⟨_, _, _, ha, halone, h₁.envelope.id, h₂.nested _ rfl, h₃.envelope.id⟩

end Router

end Rpc

end TokenGate
