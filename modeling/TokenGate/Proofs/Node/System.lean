import Mathlib.Data.List.Induction
import TokenGate.Node.Peer
import TokenGate.Proofs.Gate.Admission
import TokenGate.Proofs.Node.Listeners
/-!
A node and its clock as a system that takes one input after another, and what an input can do to it.
-/
namespace TokenGate

open Http (Event Request Response)

/-- What callers on a listener count as once they are let in. -/
def Listener.caller : Listener → Rpc.Caller
  | .auth => .authenticated
  | _ => .anonymous

/-- The session of a connection to a listener, from its handshake on. -/
def Listener.session : Listener → Gate.Session
  | .auth => .authenticated
  | _ => .anonymous

theorem Listener.caller_session (l : Listener) : l.session.caller = l.caller := by
  cases l <;> rfl

theorem Listener.session_eq_authenticated {l : Listener} :
    l.session = .authenticated ↔ l = .auth := by
  cases l <;> decide

theorem Listener.session_of_ne_auth (l : Listener) (h : l ≠ .auth) : l.session = .anonymous := by
  cases l with
  | http => rfl
  | websocket => rfl
  | auth => exact (h rfl).elim

namespace Node

/-- What becomes of a request: it is answered, or it adds a connection. The authenticated listener
adds one only for a request that the gate admits. -/
inductive Handled (n : Node) (l : Listener) (now : Instant) (request : Request) :
    Outcome × Node → Prop where
  | answered (r : Response) (metrics : Metrics) :
      Handled n l now request (.response r, { n with metrics })
  | connected (metrics : Metrics) (h : l = .auth → Gate.Admits n.validator now request.headers) :
      Handled n l now request (.connected n.opened, { n with
        connections := n.connections ++ [(n.opened, l, l.session)]
        opened := n.opened + 1
        metrics })

variable {n : Node} {l : Listener} {now : Instant} {request : Request}

theorem handled_connect : Handled n l now request (n.connect l now request) := by
  unfold connect
  split
  · exact .answered _ _
  · split
    · next hl =>
      subst hl
      simp only
      split
      · next ho =>
        obtain ⟨hadm, hs⟩ := Gate.handshake_ok ho
        rw [hs]
        exact .connected _ fun _ => hadm
      · exact .answered _ _
    · next hl =>
      rw [← l.session_of_ne_auth hl]
      exact .connected _ fun ha => (hl ha).elim

theorem handled_call (n : Node) (l : Listener) (now : Instant) (request : Request) :
    ∃ response metrics, n.call l now request = (response, { n with metrics }) := by
  unfold call
  simp only
  split
  · exact ⟨_, _, rfl⟩
  · exact ⟨_, _, rfl⟩

theorem handled_act (action : Action) : Handled n l now request (n.act l now request action) := by
  cases action with
  | call =>
    obtain ⟨response, metrics, h⟩ := handled_call n l now request
    simp only [act, h]
    exact .answered _ _
  | health => exact .answered _ _
  | metrics => exact .answered _ _
  | connect => exact handled_connect

theorem Handled.forMethod (h : Handled n l now request (outcome, n')) (method : String) :
    Handled n l now request (outcome.forMethod method, n') := by
  cases h with
  | answered r metrics => exact .answered _ _
  | connected metrics h => exact .connected metrics h

theorem handled (n : Node) (l : Listener) (now : Instant) (request : Request) :
    Handled n l now request (n.handle l now request) := by
  simp only [handle]
  split
  · exact Handled.forMethod (handled_act _) _
  · exact .answered _ _

theorem deliver_eq (n : Node) (l : Listener) (now : Instant) (request : Request) :
    n.deliver l now request =
      if (n.address l).isOk then
        (.ok (n.handle l now request).1, (n.handle l now request).2)
      else (.error .connectionRefused, n) := by
  simp only [deliver]
  cases n.address l with
  | error e => rfl
  | ok a => rfl

/-- What comes in on a connection changes nothing, or ends it. -/
theorem echo_cases (n : Node) (id : Nat) (e : Event) :
    (n.echo id e).2 = n ∨ (n.echo id e).2 = n.disconnect id := by
  simp only [echo, receive]
  split
  · exact .inl rfl
  · split
    · exact .inl rfl
    · exact .inl rfl
    · exact .inr rfl

theorem isOk_enabledAddress (name : String) (addr : Option Net.SocketAddr) :
    (enabledAddress name addr).isOk = addr.isSome := by
  cases addr with
  | none => rfl
  | some a => rfl

/-- A node that has been started has an address for each listener that is enabled. -/
theorem start_eq_ok (h : n.start net = .ok (n', net')) :
    ∃ a, n' = { n with phase := .running a } ∧ a.http.isSome = n.config.http.enabled ∧
      a.websocket.isSome = n.config.websocket.enabled := by
  obtain ⟨-, a, rfl, hs, -⟩ := tryStart_eq_ok (tryStart_of_start h)
  exact ⟨a, rfl, hs.http, hs.websocket⟩

end Node

/-- A node that has listeners open, with the clock by which it validates. -/
structure System where
  node : Node
  now : Instant

/-- The clock is set, a request comes in on a listener, or something on a connection. -/
inductive Input where
  | clock (now : Instant)
  | request (l : Listener) (r : Request)
  | frame (id : Nat) (e : Event)

inductive Answer where
  | nothing
  | outcome (r : Except Os.Error Node.Outcome)
  | events (es : List Event)

namespace System

def step (s : System) : Input → Answer × System
  | .clock now => (.nothing, { s with now })
  | .request l r =>
    let (outcome, node) := s.node.deliver l s.now r
    (.outcome outcome, { s with node })
  | .frame id e =>
    let (events, node) := s.node.echo id e
    (.events events, { s with node })

/-- What a step can do: change no connection, add one, or end one. -/
inductive Stepped (s : System) (input : Input) : Answer × System → Prop where
  | quiet (answer : Answer) (metrics : Metrics) (now : Instant)
      (ha : ∀ id, answer ≠ .outcome (.ok (.connected id))) :
      Stepped s input (answer, { node := { s.node with metrics }, now })
  | connected (metrics : Metrics) (hi : input = .request l r)
      (hs : l = .auth → Gate.Admits s.node.validator s.now r.headers) :
      Stepped s input (.outcome (.ok (.connected s.node.opened)), { s with node := { s.node with
        connections := s.node.connections ++ [(s.node.opened, l, l.session)]
        opened := s.node.opened + 1
        metrics } })
  | disconnected (events : List Event) (id : Nat) (hi : input = .frame id e) :
      Stepped s input (.events events, { s with node := s.node.disconnect id })

theorem stepped (s : System) (input : Input) : Stepped s input (s.step input) := by
  cases input with
  | clock now => exact .quiet .nothing s.node.metrics now nofun
  | request l r =>
    simp only [step, Node.deliver_eq]
    split
    · have hh := Node.handled s.node l s.now r
      generalize s.node.handle l s.now r = result at hh
      cases hh with
      | answered response metrics => exact .quiet _ metrics s.now nofun
      | connected metrics hs => exact .connected metrics rfl hs
    · exact .quiet _ s.node.metrics s.now nofun
  | frame id e =>
    simp only [step]
    rcases s.node.echo_cases id e with h | h
    · rw [h]
      exact .quiet _ s.node.metrics s.now nofun
    · rw [h]
      exact .disconnected _ id rfl

/-- The system after a number of inputs. -/
def after (s : System) (inputs : List Input) : System :=
  inputs.foldl (fun s input => (s.step input).2) s

/-- Among the inputs is a request, made at that time, that was turned into the connection. -/
def Opens (s : System) (inputs : List Input) (l : Listener) (now : Instant) (r : Request)
    (id : Nat) : Prop :=
  ∃ before rest, inputs = before ++ .request l r :: rest ∧ (s.after before).now = now ∧
    ((s.after before).step (.request l r)).1 = .outcome (.ok (.connected id))

@[simp]
theorem after_nil (s : System) : s.after [] = s := rfl

@[simp]
theorem after_concat (s : System) (inputs : List Input) (input : Input) :
    s.after (inputs ++ [input]) = ((s.after inputs).step input).2 := by
  rw [after, List.foldl_append]
  rfl

theorem after_append (s : System) (xs ys : List Input) :
    s.after (xs ++ ys) = (s.after xs).after ys :=
  List.foldl_append

/-- What holds at first and is kept by every step holds after every run. -/
theorem after_induction {motive : List Input → System → Prop} (s : System) (start : motive [] s)
    (step : ∀ inputs input, motive inputs (s.after inputs) →
      motive (inputs ++ [input]) ((s.after inputs).step input).2) (inputs : List Input) :
    motive inputs (s.after inputs) := by
  induction inputs using List.reverseRecOn with
  | nil => exact start
  | append_singleton inputs input ih =>
    rw [after_concat]
    exact step inputs input ih

theorem step_node (s : System) (input : Input) :
    ∃ metrics connections opened,
      (s.step input).2.node = { s.node with metrics, connections, opened } := by
  have h := s.stepped input
  generalize s.step input = result at h ⊢
  cases h with
  | quiet => exact ⟨_, _, _, rfl⟩
  | connected => exact ⟨_, _, _, rfl⟩
  | disconnected => exact ⟨_, _, _, rfl⟩

theorem after_node (s : System) (inputs : List Input) :
    ∃ metrics connections opened,
      (s.after inputs).node = { s.node with metrics, connections, opened } := by
  induction inputs using s.after_induction with
  | start => exact ⟨_, _, _, rfl⟩
  | step inputs input ih =>
    obtain ⟨_, _, _, h⟩ := (s.after inputs).step_node input
    obtain ⟨_, _, _, ih⟩ := ih
    rw [h, ih]
    exact ⟨_, _, _, rfl⟩

theorem after_validator (s : System) (inputs : List Input) :
    (s.after inputs).node.validator = s.node.validator := by
  obtain ⟨_, _, _, h⟩ := s.after_node inputs
  rw [h]
  rfl

variable {s : System} {inputs : List Input} {input : Input} {l : Listener} {t : Instant}
  {r : Request} {id : Nat}

theorem not_opens_nil : ¬ s.Opens [] l t r id := by
  rintro ⟨before, rest, h, -⟩
  cases before <;> cases h

theorem opens_concat_iff :
    s.Opens (inputs ++ [input]) l t r id ↔ s.Opens inputs l t r id ∨
      input = .request l r ∧ (s.after inputs).now = t ∧
        ((s.after inputs).step input).1 = .outcome (.ok (.connected id)) := by
  constructor
  · rintro ⟨before, rest, he, hn, ha⟩
    rcases rest.eq_nil_or_concat with rfl | ⟨rest, last, rfl⟩
    · obtain ⟨rfl, rfl⟩ := List.append_singleton_inj.1 he
      exact .inr ⟨rfl, hn, ha⟩
    · rw [List.concat_eq_append, ← List.cons_append, ← List.append_assoc] at he
      obtain ⟨rfl, rfl⟩ := List.append_singleton_inj.1 he
      exact .inl ⟨before, rest, rfl, hn, ha⟩
  · rintro (⟨before, rest, rfl, hn, ha⟩ | ⟨rfl, hn, ha⟩)
    · exact ⟨before, rest ++ [input], by simp, hn, ha⟩
    · exact ⟨inputs, [], rfl, hn, ha⟩

end System

end TokenGate
