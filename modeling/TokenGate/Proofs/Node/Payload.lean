import TokenGate.Proofs.Client.Exchange
import TokenGate.Proofs.Node.Handshake
import TokenGate.Proofs.Node.Services
import TokenGate.Proofs.Node.Sessions
import TokenGate.Proofs.Text.Utf8
/-!
Payloads and their answers. However a payload comes in, by a request or as a message on a
connection, the answer to it is the router's.
-/
namespace TokenGate

open Http (Event Request Response)

namespace Node

/-- The status of the response to a payload: whether it is JSON at all. -/
def payloadStatus (body : String) : Nat := if (Json.read? body).isSome then 200 else 400

/-- The response to a payload. -/
def payloadResponse (r : Rpc.Router) (caller : Rpc.Caller) (body : String) : Response :=
  jsonResponse (payloadStatus body) (r.handleBody body caller)

variable {n : Node} {l : Listener} {now : Instant} {request : Request} {body : String}
  {session : Gate.Session} {id : Nat}

theorem callResponse_encode (hb : request.body = Utf8.encode body)
    (hs : body.utf8ByteSize ≤ maxBodySize) (r : Rpc.Router) (caller : Rpc.Caller) :
    callResponse r caller request = payloadResponse r caller body := by
  have hl : ¬ maxBodySize < request.body.length := by
    rw [hb, Utf8.length_encode]
    exact Nat.not_lt.2 hs
  have hd := Json.Decoder.decode_any body
  rw [callResponse, if_neg hl, hb, Utf8.decode_encode, payloadResponse, payloadStatus,
    Rpc.Router.handleBody, Json.read?]
  cases hr : Json.read body with
  | error f =>
    rw [hr] at hd
    simp only [hd]
    rfl
  | ok j =>
    rw [hr] at hd
    simp only [hd]
    rfl

theorem handle_post (hl : l ≠ .websocket) (hm : request.method = "POST")
    (hp : Http.targetPath request.path = "/") :
    n.handle l now request = (.response (n.call l now request).1, (n.call l now request).2) := by
  have hf : (routes l "/").find? (·.methods.contains "POST") = some ⟨"POST", .call⟩ := by
    cases l with
    | http => rfl
    | websocket => exact (hl rfl).elim
    | auth => rfl
  simp only [handle, hp, hm, hf, act]
  rfl

theorem deliver_post (ho : (n.address l).isOk) (hl : l ≠ .websocket) (hm : request.method = "POST")
    (hp : Http.targetPath request.path = "/") :
    (n.deliver l now request).1 = .ok (.response (n.call l now request).1) := by
  rw [deliver_eq, if_pos ho, handle_post hl hm hp]

/-- A request for a call that passes the gate, if there is one, is answered for the callers of the
listener. -/
theorem call_of_admits (hl : l ≠ .websocket)
    (ha : l = .auth → Gate.Admits n.validator now request.headers) :
    (n.call l now request).1 = callResponse (n.router l) l.caller request := by
  cases l with
  | http => rfl
  | websocket => exact (hl rfl).elim
  | auth => exact Gate.perCall_of_admits (ha rfl) n.metrics _

theorem call_of_not_admits (ha : ¬ Gate.Admits n.validator now request.headers) :
    (n.call .auth now request).1 = Gate.unauthorized :=
  Gate.perCall_of_not_admits ha n.metrics _

/-- A request that brings a payload to a listener, and passes the gate if there is one. -/
structure Brings (n : Node) (now : Instant) (l : Listener) (r : Request) (body : String) :
    Prop where
  isOpen : (n.address l).isOk
  listener : l ≠ .websocket
  method : r.method = "POST"
  path : Http.targetPath r.path = "/"
  carried : r.body = Utf8.encode body
  size : body.utf8ByteSize ≤ maxBodySize
  admits : l = .auth → Gate.Admits n.validator now r.headers

theorem Brings.deliver (h : n.Brings now l request body) :
    (n.deliver l now request).1 =
      .ok (.response (payloadResponse (n.router l) l.caller body)) := by
  rw [deliver_post h.isOpen h.listener h.method h.path, call_of_admits h.listener h.admits,
    callResponse_encode h.carried h.size]

/-- The events by which a payload comes in on a connection. -/
def payloadEvents (body : String) : List Event := [.text body, .binary (Utf8.encode body)]

/-- The reply to a message that is not too long is the router's. -/
theorem echo_payload (hc : n.connections.lookup id = some (l, session))
    (hs : body.utf8ByteSize ≤ min n.maxMessageSize Http.maxFrameSize)
    (he : e ∈ payloadEvents body) :
    n.echo id e = ([.text ((n.router l).handleBody body session.caller).text], n) := by
  have hlimit : ¬ min n.maxMessageSize Http.maxFrameSize < body.utf8ByteSize := Nat.not_lt.2 hs
  have hl : e.limit n.maxMessageSize = e := by
    simp only [payloadEvents, List.mem_cons, List.not_mem_nil, or_false] at he
    rcases he with rfl | rfl
    · exact if_neg hlimit
    · exact if_neg hlimit
  have ha : (Gate.Connection.mk session (n.router l) n.maxMessageSize).answer body =
      ((n.router l).handleBody body session.caller).text :=
    if_neg (Nat.not_lt.2 (Nat.le_trans hs (Nat.min_le_left _ _)))
  have hr : (Gate.Connection.mk session (n.router l) n.maxMessageSize).react e =
      .reply ((n.router l).handleBody body session.caller).text := by
    simp only [payloadEvents, List.mem_cons, List.not_mem_nil, or_false] at he
    rcases he with rfl | rfl
    · rw [Gate.Connection.react, ha]
    · simp only [Gate.Connection.react, Utf8.decode?_encode, ha]
  simp only [echo, receive_eq, hc, hl, hr]

/-- A message that is too long ends the connection. -/
theorem echo_oversized (hc : n.connections.lookup id = some (l, session))
    (hs : ¬ body.utf8ByteSize ≤ min n.maxMessageSize Http.maxFrameSize) :
    n.echo id (.text body) = ([.failure], n.disconnect id) := by
  have hl : Event.limit n.maxMessageSize (.text body) = .failure := if_pos (Nat.lt_of_not_le hs)
  have hgone : ((n.disconnect id).connection? id).isSome = false := by
    simp only [connection?, Option.isSome_map, disconnect, lookup_filter_ne, if_true]
    rfl
  simp only [echo, receive_eq, hc, hl, Gate.Connection.react, hgone, Bool.false_eq_true, if_false]
  rfl

/-- On a connection that is not open a message gets no reply. -/
theorem echo_of_none (hc : n.connections.lookup id = none) :
    n.echo id (.text body) = ([.failure], n) := by
  simp only [echo, receive_eq, hc, connection?, Option.map_none, Option.isSome_none,
    Bool.false_eq_true, if_false]
  rfl

/-- Listeners that expose the same namespaces give the same answers. -/
theorem handleBody_of_modules
    (h : ∀ name, name ∈ n.config.http.modules ↔ name ∈ n.config.websocket.modules)
    (body : String) (caller : Rpc.Caller) :
    (n.router .http).handleBody body caller = (n.router .websocket).handleBody body caller := by
  have hs (name : String) :
      (scope n.config .http).exposes name = (scope n.config .websocket).exposes name := by
    apply Bool.eq_iff_iff.2
    simp only [scope, Rpc.Scope.exposes, List.contains_iff_mem]
    exact h name
  have hv := @Rpc.Dispatcher.view_of_exposes (n.router .http).dispatcher
    (n.router .websocket).dispatcher hs (fun _ _ => rfl) caller
  exact Rpc.Router.handleBody_congr (Rpc.Dispatcher.dispatch_of_views hv) _ body

end Node

namespace System

open Node (Brings)

/-- A payload has one answer on a listener, that of its router, whether a request brings it or a
message on a connection. The response says if it is no JSON. Plain listeners that expose the same
namespaces answer it alike. -/
theorem Live.answer_payload (h : Live s) (body : String) :
    (∀ l r, s.node.Brings s.now l r body →
      ∃ response, (s.step (.request l r)).1 = .outcome (.ok (.response response)) ∧
        response.body = ((s.node.router l).handleBody body l.caller).text ∧
        response.status = if (Json.read? body).isSome then 200 else 400) ∧
    (∀ l id session, s.node.connections.lookup id = some (l, session) →
      body.utf8ByteSize ≤ min s.node.maxMessageSize Http.maxFrameSize →
      ∀ e ∈ Node.payloadEvents body,
        (s.step (.frame id e)).1 =
          .events [.text ((s.node.router l).handleBody body l.caller).text]) ∧
    ((∀ name, name ∈ s.node.config.http.modules ↔ name ∈ s.node.config.websocket.modules) →
      ∀ r id session, s.node.Brings s.now .http r body →
        s.node.connections.lookup id = some (.websocket, session) →
        body.utf8ByteSize ≤ min s.node.maxMessageSize Http.maxFrameSize →
        ∃ response, (s.step (.request .http r)).1 = .outcome (.ok (.response response)) ∧
          ∀ e ∈ Node.payloadEvents body,
            (s.step (.frame id e)).1 = .events [.text response.body]) := by
  have hrequest (l : Listener) (r : Request) (hb : s.node.Brings s.now l r body) :
      (s.step (.request l r)).1 =
        .outcome (.ok (.response (Node.payloadResponse (s.node.router l) l.caller body))) :=
    congrArg Answer.outcome hb.deliver
  have hframe (l : Listener) (id : Nat) (session : Gate.Session)
      (hc : s.node.connections.lookup id = some (l, session))
      (hs : body.utf8ByteSize ≤ min s.node.maxMessageSize Http.maxFrameSize) :
      ∀ e ∈ Node.payloadEvents body,
        (s.step (.frame id e)).1 =
          .events [.text ((s.node.router l).handleBody body l.caller).text] := by
    intro e he
    rw [← l.caller_session, ← h.session_eq hc]
    exact congrArg (fun r : List Event × Node => Answer.events r.1) (Node.echo_payload hc hs he)
  refine ⟨?_, hframe, ?_⟩
  · intro l r hb
    exact ⟨_, hrequest l r hb, rfl, rfl⟩
  · intro hm r id session hb hc hs
    refine ⟨_, hrequest .http r hb, ?_⟩
    intro e he
    rw [hframe .websocket id session hc hs e he]
    simp only [Node.payloadResponse, Node.jsonResponse, Node.handleBody_of_modules hm]
    rfl

theorem Live.answer_payload_started :
    let node : Node := {
      config := {}
      secret := ⟨List.replicate 32 7, by decide⟩
      registry := ⟨[Node.web3], by simp⟩ }
    let upgrade : Request := ⟨"GET", "/", Http.upgradeFields, []⟩
    let post : Request := ⟨"POST", "/", [], Utf8.encode "[]"⟩
    ∃ n net, node.start {} = .ok (n, net) ∧ ∀ now,
      let s := (System.mk n now).after [.request .websocket upgrade]
      ∃ response, (s.step (.request .http post)).1 = .outcome (.ok (.response response)) ∧
        (s.step (.frame 0 (.text "[]"))).1 = .events [.text response.body] := by
  intro node upgrade post
  have hn : (node.start {}).isOk = true := by decide +kernel
  obtain ⟨⟨n, net⟩, hn⟩ := exists_eq_ok hn
  refine ⟨n, net, hn, ?_⟩
  intro now s
  have hl : Live s := (Live.start hn now).after _
  obtain ⟨a, hc, -⟩ := Node.start_eq_ok hn
  have hopen : (n.address .websocket).isOk = true := by
    rw [(Live.start hn now).isOk_address .websocket, hc]
    rfl
  have hasks : n.Asks .websocket upgrade := by
    refine ⟨hopen, by decide, rfl, by decide, ?_⟩
    simp only [Http.upgradeFields, List.forall_mem_cons]
    exact ⟨rfl, rfl, rfl, rfl, List.forall_mem_nil _⟩
  obtain ⟨metrics, hd⟩ :=
    @Node.Asks.deliver_of_admits n .websocket now upgrade hasks fun ha => absurd ha (by decide)
  have hs : s.node =
      { n with connections := [(0, .websocket, .anonymous)], opened := 1, metrics } := by
    have hs : s.node = (n.deliver .websocket now upgrade).2 := rfl
    rw [hs, hd, hc]
    rfl
  have hb : s.node.Brings s.now .http post "[]" := by
    refine ⟨?_, by decide, rfl, by decide, rfl, by decide,
      fun ha => absurd ha (by decide)⟩
    rw [hl.isOk_address, hs, hc]
    rfl
  obtain ⟨response, hr, he⟩ := (hl.answer_payload "[]").2.2
    (by
      rw [hs, hc]
      exact fun _ => .rfl)
    post 0 .anonymous hb
    (by
      rw [hs]
      rfl)
    (by
      rw [hs, hc]
      exact (by decide : 2 ≤ min 1048576 Http.maxFrameSize))
  exact ⟨response, hr, he _ List.mem_cons_self⟩

end System

end TokenGate
