import TokenGate.Client.Basic
import TokenGate.Proofs.Rpc.Answers
/-!
One call and its answer. The router takes the payload of a call for a request with the id of the
call, and what it answers is read by the client as the answer to this call.
-/
namespace TokenGate

open Json (Plain ReadsAs)

namespace Rpc.Router

/-- A text that is no value is answered by an error without an id, any other one for its value. -/
theorem handleBody_cases (r : Router) (body : String) (caller : Caller) :
    (∃ details, Json.read? body = none ∧
        r.handleBody body caller = failure .null (.parse details)) ∨
      ∃ j, Json.read body = .ok j ∧ r.handleBody body caller = r.handleValue j caller := by
  cases h : Json.read? body with
  | none =>
    obtain ⟨e, he⟩ := handleBody_of_read?_eq_none h
    exact .inl ⟨_, rfl, he r caller⟩
  | some j => exact .inr ⟨j, Json.read?_eq_some.1 h, handleBody_of_read? h r caller⟩

end Rpc.Router

namespace Client

open Rpc (Router failure respond)

variable {r : Router} {caller : Rpc.Caller} {id : UInt64} {method : String} {params : Json}

/-- The id of a call as a value. -/
def idValue (id : UInt64) : Json := Json.ofInt id.toNat

theorem plain_idValue (id : UInt64) : Plain n (idValue id) := by
  rw [idValue, Json.ofInt_eq_num (Json.uint64_inRange id)]
  exact .int

theorem ascending_payload :
    Json.Ascending [("id", idValue id), ("jsonrpc", .str "2.0"), ("method", .str method),
      ("params", params)] := by
  simp only [Json.Ascending, List.pairwise_cons, List.forall_mem_cons]
  decide

theorem plain_payload (h : Plain 126 params) : Plain 127 (payload id method params) := by
  refine .obj ascending_payload ?_
  simp only [List.forall_mem_cons]
  exact ⟨plain_idValue id, .str, .str, h, nofun⟩

theorem validateId_idValue (id : UInt64) :
    Rpc.validateId (some (idValue id)) = .ok (idValue id) := by
  rw [idValue, Json.ofInt_eq_num (Json.uint64_inRange id)]
  rfl

/-- An object with the members of a call is answered as this call. -/
theorem handleValue_of_lookup {ms : List (String × Json)} (hi : ms.lookup "id" = some (idValue id))
    (hv : ms.lookup "jsonrpc" = some (.str "2.0")) (hm : ms.lookup "method" = some (.str method))
    (hp : ms.lookup "params" = some params) :
    r.handleValue (.obj ms) caller =
      respond (idValue id) (r.dispatcher.dispatch method (some params) caller) := by
  simp only [Router.handleValue, Router.handleRequest, Json.get?, hi, hv, hm, hp,
    validateId_idValue]

/-- The router answers the payload of a call as this call, if it can be read. Parameters that are
not plain may have been read as others. -/
theorem handleBody_payload (r : Router) (caller : Rpc.Caller) (id : UInt64) (method : String)
    (params : Json) :
    (∃ details, r.handleBody (payload id method params).text caller =
          failure .null (.parse details) ∧
        Json.read? (payload id method params).text = none) ∨
      ∃ params', ReadsAs (Json.readValue 126) params params' ∧
        r.handleBody (payload id method params).text caller =
          respond (idValue id) (r.dispatcher.dispatch method (some params') caller) := by
  rcases r.handleBody_cases (payload id method params).text caller with ⟨e, hn, h⟩ | ⟨j, hj, h⟩
  · exact .inl ⟨e, h, hn⟩
  · obtain ⟨ms, rfl, hms⟩ := Json.read_text_members ascending_payload hj
    have hp : ∃ params', ms.lookup "params" = some params' ∧
        ReadsAs (Json.readValue 126) params params' := by
      have hr := hms "params"
      generalize ms.lookup "params" = o at hr
      cases hr with
      | some hr => exact ⟨_, rfl, hr⟩
    obtain ⟨params', hl, hr⟩ := hp
    refine .inr ⟨params', hr, h.trans (handleValue_of_lookup ?_ ?_ ?_ hl)⟩
    · exact Json.lookup_of_plain (hms "id") (plain_idValue id)
    · exact Json.lookup_of_plain (hms "jsonrpc") .str
    · exact Json.lookup_of_plain (hms "method") .str

theorem handleBody_payload_of_plain (h : Plain 126 params) :
    r.handleBody (payload id method params).text caller =
      respond (idValue id) (r.dispatcher.dispatch method (some params) caller) := by
  have hr : Json.read (payload id method params).text = .ok (payload id method params) :=
    (plain_payload h).read_text
  rcases r.handleBody_cases (payload id method params).text caller with ⟨e, hn, -⟩ | ⟨j, hj, he⟩
  · rw [Json.read?, hr] at hn
    cases hn
  · cases hr.symm.trans hj
    exact he.trans (handleValue_of_lookup rfl rfl rfl rfl)

/-- The router answers the payload of a call by a response that bears the id of the call, or by an
error without an id. -/
theorem handleBody_payload_cases (r : Router) (caller : Rpc.Caller) (id : UInt64) (method : String)
    (params : Json) :
    ∃ id' result, r.handleBody (payload id method params).text caller = respond id' result ∧
      (id' = idValue id ∨ id' = .null ∧ result.isOk = false) := by
  rcases handleBody_payload r caller id method params with ⟨e, h, -⟩ | ⟨params', -, h⟩
  · exact ⟨.null, .error _, h, .inr ⟨rfl, rfl⟩⟩
  · exact ⟨_, _, h, .inl rfl⟩

theorem read_of_readMessage (h : readMessage text = .ok j) : Json.read text = .ok j := by
  rw [readMessage, Json.Decoder.decode_any] at h
  cases hr : Json.read text with
  | error f =>
    rw [hr] at h
    cases h
  | ok j' =>
    rw [hr] at h
    cases h
    rfl

/-- What is read from the reply to the payload of a call answers this call. -/
theorem answers_of_readMessage
    (h : readMessage (r.handleBody (payload id method params).text caller).text = .ok j) :
    answers id j := by
  obtain ⟨id', result, hb, hid⟩ := handleBody_payload_cases r caller id method params
  rw [hb] at h
  rcases hid with hid | ⟨hid, he⟩
  · rw [hid] at h
    obtain ⟨hi, -⟩ := Rpc.get?_of_read_respond (plain_idValue id) (read_of_readMessage h)
    rw [answers, hi, idValue, Json.ofInt_eq_num (Json.uint64_inRange id)]
    simp only [decide_true]
  · rw [hid] at h
    obtain ⟨hi, hs⟩ := Rpc.get?_of_read_respond .null (read_of_readMessage h)
    rw [answers, hi, hs, he]
    rfl

/-- A client that waits for the answer to a call, and has only one text before it, which can be
nothing else, reads this text. -/
theorem awaitAnswer_text (h : ∀ j, readMessage text = .ok j → answers id j) (socket : Nat) :
    awaitAnswer id ⟨socket, [.text text], true⟩ = (readMessage text, ⟨socket, [], true⟩) := by
  rw [awaitAnswer.eq_def]
  simp only [readEvent]
  cases hr : readMessage text with
  | error e => rfl
  | ok j => simp only [h j hr, bind, Except.bind, pure, Except.pure, if_true]

/-- A result as the caller of a remote method gets it: of an error, the code and the message. -/
def remote (result : Except Rpc.Error Json) : Except Error Json :=
  result.mapError fun e => .rpc e.code e.message

theorem remote_eq_ok {result : Except Rpc.Error Json} : remote result = .ok v ↔ result = .ok v := by
  cases result with
  | ok result => simp only [remote, Except.mapError, Except.ok.injEq]
  | error e => exact ⟨nofun, nofun⟩

/-- Of an error the code and the message come through, whatever its data are. -/
theorem remote_eq_rpc {result : Except Rpc.Error Json} :
    remote result = .error (.rpc code message) ↔ ∃ data, result = .error ⟨code, message, data⟩ := by
  cases result with
  | ok result => exact ⟨nofun, nofun⟩
  | error e =>
    constructor
    · intro h
      cases h
      exact ⟨e.data, rfl⟩
    · rintro ⟨data, h⟩
      cases h
      rfl

/-- Values that come through unchanged inside a response: results, or errors with data, that do not
nest too deep. -/
def Comes : Except Rpc.Error Json → Prop
  | .ok result => Plain 126 result
  | .error e => ∀ d ∈ e.data, Plain 125 d

theorem plain_respond (hi : Plain 126 id') (h : Comes result) : Plain 127 (respond id' result) := by
  cases result with
  | ok result => exact Rpc.plain_success hi h
  | error e => exact Rpc.plain_failure hi h

theorem decodeResponse_respond (id' : Json) (result : Except Rpc.Error Json) :
    decodeResponse .any (respond id' result) = remote result := by
  cases result with
  | ok result => rfl
  | error e =>
    have hg : (respond id' (.error e)).get? "error" = some e.toValue := rfl
    have hd : Rpc.Error.decoder.decodeValue e.toValue = .ok e.withoutNull := by
      rw [Json.Decoder.decodeValue, e.fromValue_toValue]
      rfl
    rw [decodeResponse, hg]
    simp only [hd]
    obtain ⟨code, message, data⟩ := e
    rcases data with _ | d
    · rfl
    · cases d <;> rfl

theorem readMessage_eq_ok (h : Json.read text = .ok j) : readMessage text = .ok j := by
  rw [readMessage, Json.Decoder.decode_any, h]
  rfl

/-- The text of what a plain call leads to is read as that, and decoded as a result of the remote
method. -/
theorem readMessage_reply (hp : Plain 126 params)
    (h : Comes (r.dispatcher.dispatch method (some params) caller)) :
    readMessage (r.handleBody (payload id method params).text caller).text >>= decodeResponse .any =
      remote (r.dispatcher.dispatch method (some params) caller) := by
  rw [handleBody_payload_of_plain hp,
    readMessage_eq_ok (plain_respond (plain_idValue id) h).read_text]
  exact decodeResponse_respond _ _

end Client

end TokenGate
