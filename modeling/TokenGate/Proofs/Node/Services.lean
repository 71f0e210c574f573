import TokenGate.Proofs.Node.System
import TokenGate.Proofs.Rpc.Visibility
/-!
What the services of a node can change: nothing about the node itself, and of an answer only its
body. Those that ask for authentication change not even that for callers whom no gate has admitted.
-/
namespace TokenGate

open Http (Event Request Response)
open Rpc (Registry)

def Http.Response.withoutBody (r : Response) : Response := { r with body := "" }

def Http.Event.withoutText : Event → Event
  | .text _ => .text ""
  | e => e

/-- Which reaction an event gets, but for its text, does not depend on the services. -/
theorem Gate.Connection.react_cases (session : Session) (r r' : Rpc.Router) (max : Nat)
    (e : Event) :
    (∃ t t', (Connection.mk session r max).react e = .reply t ∧
      (Connection.mk session r' max).react e = .reply t') ∨
    (Connection.mk session r max).react e = (Connection.mk session r' max).react e := by
  cases e with
  | text message => exact .inl ⟨_, _, rfl, rfl⟩
  | binary b =>
    simp only [react]
    split
    · exact .inl ⟨_, _, rfl, rfl⟩
    · exact .inr rfl
  | ping => exact .inr rfl
  | pong => exact .inr rfl
  | close => exact .inr rfl
  | failure => exact .inr rfl

theorem Gate.Connection.react_congr {session : Session} {r r' : Rpc.Router}
    (h : ∀ message, r.handleBody message session.caller = r'.handleBody message session.caller)
    (max : Nat) (e : Event) :
    (Connection.mk session r max).react e = (Connection.mk session r' max).react e := by
  simp only [react, answer, h]

namespace Node

/-- A node as it would be with other services and at other addresses. -/
def offering (n : Node) (registry : Registry) (phase : Phase) : Node := { n with registry, phase }

/-- A request to call, made to the authenticated listener, that the gate admits. -/
structure CallAdmitted (v : Token.Validator) (now : Instant) (l : Listener) (r : Request) :
    Prop where
  listener : l = .auth
  method : r.method = "POST"
  path : Http.targetPath r.path = "/"
  admits : Gate.Admits v now r.headers

def Outcome.withoutBody : Outcome → Outcome
  | .response r => .response r.withoutBody
  | .connected id => .connected id

section
variable (n : Node) (registry : Registry) (phase : Phase) (l : Listener) (now : Instant)
  (request : Request)

@[simp]
theorem offering_validator : (n.offering registry phase).validator = n.validator := rfl

@[simp]
theorem offering_metrics : (n.offering registry phase).metrics = n.metrics := rfl

@[simp]
theorem offering_connections : (n.offering registry phase).connections = n.connections := rfl

@[simp]
theorem offering_maxMessageSize :
    (n.offering registry phase).maxMessageSize = n.maxMessageSize := rfl

theorem connect_offering :
    (n.offering registry phase).connect l now request =
      ((n.connect l now request).1, (n.connect l now request).2.offering registry phase) := by
  simp only [connect, offering_validator, offering_metrics]
  split
  · rfl
  · split
    · generalize Gate.handshake n.validator now n.metrics .awaitingHandshake request.headers = h
      cases h.outcome with
      | ok => rfl
      | error e => rfl
    · rfl

/-- Whether a service answers shows in no counter. -/
theorem call_offering :
    ((n.offering registry phase).call l now request).2 =
      (n.call l now request).2.offering registry phase := by
  simp only [call]
  split
  · rfl
  · rfl

theorem act_offering (action : Action) :
    ((n.offering registry phase).act l now request action).2 =
      (n.act l now request action).2.offering registry phase := by
  cases action with
  | call => exact call_offering n registry phase l now request
  | health => rfl
  | metrics => rfl
  | connect => simp only [act, connect_offering]

theorem handle_offering :
    ((n.offering registry phase).handle l now request).2 =
      (n.handle l now request).2.offering registry phase := by
  simp only [handle]
  split
  · exact act_offering n registry phase l now request _
  · rfl

theorem callResponse_withoutBody (r r' : Rpc.Router) (caller : Rpc.Caller) :
    (callResponse r caller request).withoutBody = (callResponse r' caller request).withoutBody := by
  simp only [callResponse]
  split
  · rfl
  · split
    · rfl
    · split
      · rfl
      · rfl

theorem call_offering_withoutBody :
    ((n.offering registry phase).call l now request).1.withoutBody =
      (n.call l now request).1.withoutBody := by
  simp only [call, Gate.perCall, offering_validator]
  split
  · split
    · exact callResponse_withoutBody request _ _ _
    · rfl
  · exact callResponse_withoutBody request _ _ _

theorem act_offering_withoutBody (action : Action) :
    ((n.offering registry phase).act l now request action).1.withoutBody =
      (n.act l now request action).1.withoutBody := by
  cases action with
  | call =>
    exact congrArg Outcome.response (call_offering_withoutBody n registry phase l now request)
  | health => rfl
  | metrics => rfl
  | connect => simp only [act, connect_offering]

theorem Outcome.withoutBody_forMethod (outcome : Outcome) (method : String) :
    (outcome.forMethod method).withoutBody = outcome.withoutBody := by
  cases outcome with
  | response r =>
    simp only [forMethod]
    split
    · rfl
    · rfl
  | connected id => rfl

theorem handle_offering_withoutBody :
    ((n.offering registry phase).handle l now request).1.withoutBody =
      (n.handle l now request).1.withoutBody := by
  simp only [handle]
  split
  · rw [Outcome.withoutBody_forMethod, Outcome.withoutBody_forMethod, act_offering_withoutBody]
  · rfl

theorem deliver_offering
    (ha : ((n.offering registry phase).address l).isOk = (n.address l).isOk) :
    ((n.offering registry phase).deliver l now request).2 =
        (n.deliver l now request).2.offering registry phase ∧
      ((n.offering registry phase).deliver l now request).1.map Outcome.withoutBody =
        (n.deliver l now request).1.map Outcome.withoutBody := by
  rw [deliver_eq, deliver_eq, ha]
  split
  · refine ⟨handle_offering n registry phase l now request, ?_⟩
    exact congrArg Except.ok (handle_offering_withoutBody n registry phase l now request)
  · exact ⟨rfl, rfl⟩

theorem receive_eq (id : Nat) (e : Event) :
    n.receive id e = match n.connections.lookup id with
      | none => (none, n)
      | some (l, session) =>
        match (Gate.Connection.mk session (n.router l) n.maxMessageSize).react
          (e.limit n.maxMessageSize) with
        | .reply text => (some text, n)
        | .ignore => (none, n)
        | .leave => (none, n.disconnect id) := by
  simp only [receive, connection?]
  cases n.connections.lookup id with
  | none => rfl
  | some c => rfl

theorem receive_offering (id : Nat) (e : Event) :
    ((n.offering registry phase).receive id e).2 = (n.receive id e).2.offering registry phase ∧
      ((n.offering registry phase).receive id e).1.isSome = (n.receive id e).1.isSome := by
  rw [receive_eq, receive_eq, offering_connections, offering_maxMessageSize]
  split
  · exact ⟨rfl, rfl⟩
  · next l session _ =>
    rcases Gate.Connection.react_cases session ((n.offering registry phase).router l) (n.router l)
      n.maxMessageSize (e.limit n.maxMessageSize) with ⟨t, t', h, h'⟩ | h
    · rw [h, h']
      exact ⟨rfl, rfl⟩
    · rw [h]
      split
      · exact ⟨rfl, rfl⟩
      · exact ⟨rfl, rfl⟩
      · exact ⟨rfl, rfl⟩

theorem isSome_offering_connection? (id : Nat) :
    ((n.offering registry phase).connection? id).isSome = (n.connection? id).isSome := by
  simp only [connection?, Option.isSome_map, offering_connections]

theorem echo_offering (id : Nat) (e : Event) :
    ((n.offering registry phase).echo id e).2 = (n.echo id e).2.offering registry phase ∧
      ((n.offering registry phase).echo id e).1.map Event.withoutText =
        (n.echo id e).1.map Event.withoutText := by
  obtain ⟨hs, hr⟩ := receive_offering n registry phase id e
  refine ⟨hs, ?_⟩
  simp only [echo, hs, isSome_offering_connection?]
  generalize ((n.offering registry phase).receive id e).1 = a, (n.receive id e).1 = b at hr ⊢
  cases a with
  | none =>
    cases b with
    | none => rfl
    | some text => cases hr
  | some text =>
    cases b with
    | none => cases hr
    | some text => rfl

end

section
variable {n : Node} {registry : Registry} (h : n.registry.AgreesOpenly registry) (phase : Phase)
  {l : Listener} {now : Instant} {request : Request}
include h

theorem dispatch_offering (method : String) (params : Option Json) :
    ((n.offering registry phase).router l).dispatcher.dispatch method params .anonymous =
      (n.router l).dispatcher.dispatch method params .anonymous :=
  (Rpc.Dispatcher.dispatch_anonymous h (scope n.config l) method params).symm

theorem call_offering_of_not_admits
    (hg : ¬ (l = .auth ∧ Gate.Admits n.validator now request.headers)) :
    ((n.offering registry phase).call l now request).1 = (n.call l now request).1 := by
  simp only [call, offering_validator]
  split
  · next hl =>
    have ha : ¬ Gate.Admits n.validator now request.headers := fun ha => hg ⟨hl, ha⟩
    simp only [Gate.perCall_of_not_admits ha]
  · simp only [callResponse]
    split
    · rfl
    · split
      · rfl
      · split
        · rfl
        · exact congrArg (jsonResponse 200)
            (Rpc.Router.handleValue_congr (dispatch_offering h phase) _ _)

theorem act_offering_of_not_admits (action : Action)
    (hg : action = .call → ¬ (l = .auth ∧ Gate.Admits n.validator now request.headers)) :
    ((n.offering registry phase).act l now request action).1 = (n.act l now request action).1 := by
  cases action with
  | call => exact congrArg Outcome.response (call_offering_of_not_admits h phase (hg rfl))
  | health => rfl
  | metrics => rfl
  | connect => simp only [act, connect_offering]

omit h in
/-- Only one route of the authenticated listener leads to a call. -/
theorem call_route (hr : (routes .auth path).find? (·.methods.contains method) = some route)
    (ha : route.action = .call) : method = "POST" ∧ path = "/" := by
  have hmem := List.mem_of_find?_eq_some hr
  have hm := List.find?_some hr
  by_cases hp : path = "/"
  · subst hp
    simp only [routes, List.mem_cons, List.not_mem_nil, or_false] at hmem
    rcases hmem with rfl | rfl
    · cases ha
    · simpa [Route.methods] using hm
  · have hnone : routes .auth path = [] := by
      unfold routes
      split <;> simp_all
    rw [hnone] at hmem
    cases hmem

theorem handle_offering_of_not_admits
    (hg : ¬ CallAdmitted n.validator now l request) :
    ((n.offering registry phase).handle l now request).1 = (n.handle l now request).1 := by
  simp only [handle]
  split
  · next route hr =>
    rw [act_offering_of_not_admits h phase]
    rintro ha ⟨rfl, hadm⟩
    obtain ⟨hm, hp⟩ := call_route hr ha
    exact hg ⟨rfl, hm, hp, hadm⟩
  · rfl

theorem deliver_offering_of_not_admits
    (ha : ((n.offering registry phase).address l).isOk = (n.address l).isOk)
    (hg : ¬ CallAdmitted n.validator now l request) :
    ((n.offering registry phase).deliver l now request).1 = (n.deliver l now request).1 := by
  rw [deliver_eq, deliver_eq, ha]
  split
  · exact congrArg Except.ok (handle_offering_of_not_admits h phase hg)
  · rfl

theorem receive_offering_of_not_authenticated {id : Nat} (e : Event)
    (hs : ∀ l, n.connections.lookup id ≠ some (l, .authenticated)) :
    ((n.offering registry phase).receive id e).1 = (n.receive id e).1 := by
  rw [receive_eq, receive_eq, offering_connections, offering_maxMessageSize]
  split
  · rfl
  · next l session hc =>
    have hcaller : session.caller = .anonymous := by
      cases session with
      | authenticated => exact (hs l hc).elim
      | awaitingHandshake => rfl
      | rejected => rfl
      | anonymous => rfl
      | closed => rfl
    have hbody (message : String) :
        ((n.offering registry phase).router l).handleBody message session.caller =
          (n.router l).handleBody message session.caller := by
      rw [hcaller]
      exact Rpc.Router.handleBody_congr (dispatch_offering h phase) _ _
    rw [Gate.Connection.react_congr hbody]
    split
    · rfl
    · rfl
    · rfl

theorem echo_offering_of_not_authenticated {id : Nat} (e : Event)
    (hs : ∀ l, n.connections.lookup id ≠ some (l, .authenticated)) :
    ((n.offering registry phase).echo id e).1 = (n.echo id e).1 := by
  simp only [echo, (receive_offering n registry phase id e).1, isSome_offering_connection?,
    receive_offering_of_not_authenticated h phase e hs]

end

end Node

end TokenGate
