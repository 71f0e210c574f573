import TokenGate.Proofs.Client.Exchange
import TokenGate.Proofs.Http.Bearer
import TokenGate.Proofs.Node.Payload
/-!
Calls by request. Whether one is let in depends on the fields that its provider has made; the
response is then read as the reply to the payload, and never as a refusal.
-/
namespace TokenGate

open Client (payload)
open Http (Headers)
open Json (Plain)

namespace Gate

/-- A request for a call is admitted for the fields that its provider has made. -/
theorem admits_callRequest (target : String) (fields : Headers) (body : Json) :
    Admits v now (Client.callRequest target fields body).headers ↔ Admits v now fields := by
  have hg : (Client.callRequest target fields body).headers.get? Http.authorization =
      fields.get? Http.authorization := by
    simp only [Client.callRequest]
    split
    · have hc : [Http.contentType Http.jsonType].filter (·.name = Http.authorization) = [] := by
        decide
      simp only [Headers.get?, Headers.values, List.filter_append, hc, List.append_nil]
    · rw [List.append_nil]
  simp only [Admits, Http.bearerToken_congr hg]

end Gate

namespace Node

theorem callResponse_status (r : Rpc.Router) (caller : Rpc.Caller) (request : Http.Request) :
    (callResponse r caller request).status ≠ 401 := by
  simp only [callResponse]
  split
  · exact (by decide : (413 : Nat) ≠ 401)
  · split
    · exact (by decide : (400 : Nat) ≠ 401)
    · split
      · exact (by decide : (400 : Nat) ≠ 401)
      · exact (by decide : (200 : Nat) ≠ 401)

theorem post_call {n : Node} (ho : (n.address l).isOk) (hl : l ≠ .websocket) (t : Instant)
    (fields : Headers) (body : Json) :
    ((peer l t).post (Client.callRequest "/" fields body) n).1 =
      .ok (n.call l t (Client.callRequest "/" fields body)).1 := by
  have hp : Http.targetPath "/" = "/" := by decide
  have hd := @deliver_post n l t (Client.callRequest "/" fields body) ho hl rfl hp
  simp only [peer, hd]
  rfl

theorem payloadStatus_ne (body : String) : payloadStatus body ≠ 401 := by
  rw [payloadStatus]
  split <;> decide

end Node

namespace Client

variable {α σ : Type} {c : Client} {n : Node} {l : Listener} {r : Rpc.Router} {caller : Rpc.Caller}
  {id : UInt64} {method target : String} {params : Json} {peer : Peer σ} {s : σ} {now t : Instant}
  {provider : Option Provider} {fields : Headers}

theorem of_decodeResponse {decoder : Json.Decoder α} (h : decodeResponse decoder j = .error e) :
    (∃ code message, e = .rpc code message) ∨ ∃ reason, e = .invalidResponse reason := by
  simp only [decodeResponse] at h
  split at h
  · split at h
    · cases h
      exact .inl ⟨_, _, rfl⟩
    · cases h
      exact .inr ⟨_, rfl⟩
  · split at h
    · cases h
      exact .inr ⟨_, rfl⟩
    · next result hr =>
      cases hd : decoder.decodeValue result with
      | ok a =>
        rw [hd] at h
        cases h
      | error f =>
        rw [hd] at h
        cases h
        exact .inr ⟨_, rfl⟩

/-- A response that is no refusal does not look like one, whatever is in it. -/
theorem readResponse_ne {response : Http.Response} (hs : response.status ≠ 401)
    (decoder : Json.Decoder α) :
    readResponse (.ok response) >>= decodeResponse decoder ≠ .error .unauthorized ∧
      ∀ e, readResponse (.ok response) >>= decodeResponse decoder ≠ .error (.provider e) := by
  simp only [readResponse, if_neg hs]
  cases Json.read? response.body with
  | none => exact ⟨nofun, nofun⟩
  | some j =>
    constructor
    · intro h
      rcases of_decodeResponse h with ⟨_, _, h⟩ | ⟨_, h⟩ <;> cases h
    · intro e h
      rcases of_decodeResponse h with ⟨_, _, h⟩ | ⟨_, h⟩ <;> cases h

/-- A call by request that has no credential is not sent. -/
theorem call_of_error (ht : c.transport = .http target)
    (hc : credentials c.provider now [] = (.error e, provider)) (decoder : Json.Decoder α) :
    c.call peer decoder method params now s =
      (.error e, { c with nextId := c.nextId + 1, provider }, s) := by
  simp only [call, ht, hc]

theorem call_of_ok (ht : c.transport = .http target)
    (hc : credentials c.provider now [] = (.ok fields, provider)) (decoder : Json.Decoder α) :
    c.call peer decoder method params now s =
      (readResponse (peer.post (callRequest target fields (payload c.nextId method params)) s).1 >>=
          decodeResponse decoder,
        { c with nextId := c.nextId + 1, provider },
        (peer.post (callRequest target fields (payload c.nextId method params)) s).2) := by
  simp only [call, ht, hc]

/-- A call by request that is let in is answered for the callers of the listener. -/
theorem call_admitted (ht : c.transport = .http "/") (ho : (n.address l).isOk) (hl : l ≠ .websocket)
    (hc : credentials c.provider now [] = (.ok fields, provider))
    (ha : l = .auth → Gate.Admits n.validator t fields) (decoder : Json.Decoder α) :
    (c.call (Node.peer l t) decoder method params now n).1 =
      readResponse (.ok (Node.callResponse (n.router l) l.caller
        (callRequest "/" fields (payload c.nextId method params)))) >>= decodeResponse decoder := by
  have ha' (h : l = .auth) := (Gate.admits_callRequest "/" fields
    (payload c.nextId method params)).2 (ha h)
  rw [call_of_ok ht hc, Node.post_call ho hl, Node.call_of_admits hl ha']

/-- A call by request that is not let in is refused. -/
theorem call_not_admitted (ht : c.transport = .http "/") (ho : (n.address .auth).isOk)
    (hc : credentials c.provider now [] = (.ok fields, provider))
    (ha : ¬ Gate.Admits n.validator t fields) (decoder : Json.Decoder α) :
    (c.call (Node.peer .auth t) decoder method params now n).1 = .error .unauthorized := by
  have ha' := mt (Gate.admits_callRequest "/" fields (payload c.nextId method params)).1 ha
  rw [call_of_ok ht hc, Node.post_call ho nofun, Node.call_of_not_admits ha']
  rfl

theorem body_callRequest (target : String) (fields : Headers) (body : Json) :
    (callRequest target fields body).body = Utf8.encode body.text := rfl

theorem readResponse_json {status : Nat} {j : Json} (hs : status ≠ 401)
    (hr : Json.read j.text = .ok j) : readResponse (.ok (Node.jsonResponse status j)) = .ok j := by
  simp only [readResponse, Node.jsonResponse, if_neg hs, Json.read?, hr]
  rfl

/-- The response to a call is read as the reply to it on a socket is. -/
theorem readResponse_call (hs : (payload id method params).text.utf8ByteSize ≤ Node.maxBodySize)
    (hp : Plain 126 params) (h : Comes (r.dispatcher.dispatch method (some params) caller))
    (target : String) (fields : Headers) :
    readResponse (.ok (Node.callResponse r caller
        (callRequest target fields (payload id method params)))) >>= decodeResponse .any =
      remote (r.dispatcher.dispatch method (some params) caller) := by
  have hb := @handleBody_payload_of_plain r caller id method params hp
  have hread := (plain_respond (plain_idValue id) h).read_text
  rw [Node.callResponse_encode (body_callRequest _ _ _) hs, Node.payloadResponse, hb,
    readResponse_json (Node.payloadStatus_ne _) hread]
  exact decodeResponse_respond _ _

end Client

end TokenGate
