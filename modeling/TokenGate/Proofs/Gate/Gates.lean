import TokenGate.Node.Basic
import TokenGate.Proofs.Gate.Admission
/-!
Both gates at work, with one clock and one set of counters: any number of sessions, and requests
between what is done to them.
-/
namespace TokenGate

/-- The state in which sessions on a listener begin. -/
def Listener.opening : Listener → Gate.Session
  | .auth => .awaitingHandshake
  | _ => .anonymous

theorem Listener.opening_of_ne_auth (l : Listener) (h : l ≠ .auth) : l.opening = .anonymous := by
  cases l with
  | http => rfl
  | websocket => rfl
  | auth => exact (h rfl).elim

namespace Gate

/-- The gates of a validator, with the service behind the gate for requests, and the sessions there
have been, by their numbers. -/
structure Gates where
  validator : Token.Validator
  inner : Rpc.Caller → Http.Request → Http.Response
  now : Instant
  metrics : Metrics := {}
  sessions : List Session := []

/-- A session begins on a listener, is closed, or presents the header fields of its handshake; the
clock is set; a request comes in. -/
inductive Act where
  | enter (l : Listener)
  | close (id : Nat)
  | handshake (id : Nat) (h : Http.Headers)
  | clock (now : Instant)
  | request (r : Http.Request)

inductive Reply where
  | nothing
  | entered (id : Nat)
  | handshake (outcome : Except HandshakeError Unit)
  | response (r : Http.Response)

namespace Gates

def step (g : Gates) : Act → Reply × Gates
  | .enter l => (.entered g.sessions.length, { g with sessions := g.sessions ++ [l.opening] })
  | .close id => (.nothing, { g with sessions := g.sessions.modify id fun _ => .closed })
  | .handshake id h =>
    match g.sessions[id]? with
    | none => (.nothing, g)
    | some session =>
      let r := handshake g.validator g.now g.metrics session h
      (.handshake r.outcome,
        { g with sessions := g.sessions.set id r.session, metrics := r.metrics })
  | .clock now => (.nothing, { g with now })
  | .request r =>
    let (response, metrics) := perCall g.validator g.now g.metrics r g.inner
    (.response response, { g with metrics })

/-- The gates after a number of acts. -/
def after (g : Gates) (acts : List Act) : Gates := acts.foldl (fun g act => (g.step act).2) g

@[simp]
theorem after_nil (g : Gates) : g.after [] = g := rfl

@[simp]
theorem after_cons (g : Gates) (act : Act) (acts : List Act) :
    g.after (act :: acts) = (g.step act).2.after acts := rfl

theorem after_append (g : Gates) (xs ys : List Act) : g.after (xs ++ ys) = (g.after xs).after ys :=
  List.foldl_append

/-- No act exchanges the validator or the service. -/
theorem step_frame (g : Gates) (act : Act) :
    (g.step act).2.validator = g.validator ∧ (g.step act).2.inner = g.inner := by
  cases act with
  | enter l => exact ⟨rfl, rfl⟩
  | close id => exact ⟨rfl, rfl⟩
  | handshake id h =>
    simp only [step]
    split
    · exact ⟨rfl, rfl⟩
    · exact ⟨rfl, rfl⟩
  | clock now => exact ⟨rfl, rfl⟩
  | request r => exact ⟨rfl, rfl⟩

theorem after_frame (g : Gates) (acts : List Act) :
    (g.after acts).validator = g.validator ∧ (g.after acts).inner = g.inner := by
  induction acts generalizing g with
  | nil => exact ⟨rfl, rfl⟩
  | cons act acts ih =>
    obtain ⟨hv, hi⟩ := g.step_frame act
    rw [after_cons, ← hv, ← hi]
    exact ih _

end Gates

end Gate

end TokenGate
