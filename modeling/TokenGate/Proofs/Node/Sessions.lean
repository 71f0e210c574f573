import TokenGate.Proofs.Node.System
/-!
What holds in every system that a started node has come to: its listeners are open, and the sessions
of its connections are those of the listeners to which they were made.
-/
namespace TokenGate

open Http (Event Request)

namespace System

/-- Systems as they come about: a node is started that has no connections yet, and takes inputs. -/
inductive Live : System → Prop where
  | start (h : Node.start { config, secret, registry } net = .ok (n, net')) (now : Instant) :
      Live ⟨n, now⟩
  | step (h : Live s) (input : Input) : Live (s.step input).2

variable {s : System} {input : Input} {l : Listener} {session : Gate.Session} {id : Nat}

theorem Live.after (h : Live s) (inputs : List Input) : Live (s.after inputs) := by
  induction inputs using s.after_induction with
  | start => exact h
  | step inputs input ih => exact ih.step input

/-- The connections of a node have numbers that have been given, and the sessions of their
listeners. -/
structure Proper (n : Node) : Prop where
  below : ∀ c ∈ n.connections, c.1 < n.opened
  session : ∀ c ∈ n.connections, c.2.2 = c.2.1.session

theorem Live.proper (h : Live s) : Proper s.node := by
  induction h with
  | start h now =>
    obtain ⟨a, rfl, -⟩ := Node.start_eq_ok h
    exact ⟨fun c hc => (List.not_mem_nil hc).elim, fun c hc => (List.not_mem_nil hc).elim⟩
  | @step s h input ih =>
    have hs := s.stepped input
    generalize s.step input = result at hs
    cases hs with
    | quiet answer metrics now ha => exact ⟨ih.below, ih.session⟩
    | connected metrics hi hs =>
      constructor
      · intro c hc
        rcases List.mem_append.1 hc with hc | hc
        · exact Nat.lt_succ_of_lt (ih.below c hc)
        · rw [List.mem_singleton.1 hc]
          exact Nat.lt_succ_self _
      · intro c hc
        rcases List.mem_append.1 hc with hc | hc
        · exact ih.session c hc
        · rw [List.mem_singleton.1 hc]
    | disconnected events id hi =>
      exact ⟨fun c hc => ih.below c (List.mem_filter.1 hc).1,
        fun c hc => ih.session c (List.mem_filter.1 hc).1⟩

theorem Live.session_eq (h : Live s) (hc : s.node.connections.lookup id = some (l, session)) :
    session = l.session := by
  obtain ⟨before, after, he, -⟩ := List.lookup_eq_some_iff.1 hc
  have hm : (id, l, session) ∈ s.node.connections := by rw [he]; simp
  exact h.proper.session _ hm

/-- A connection stays open as long as nothing comes in on it. -/
theorem lookup_step (hc : s.node.connections.lookup id = some c)
    (hi : ∀ e, input ≠ .frame id e) :
    (System.step s input).2.node.connections.lookup id = some c := by
  have hs := s.stepped input
  generalize s.step input = result at hs ⊢
  cases hs with
  | quiet answer metrics now ha => exact hc
  | connected metrics =>
    simp only [List.lookup_append, hc, Option.some_or]
  | disconnected events gone he =>
    simp only [Node.disconnect, lookup_filter_ne]
    rw [if_neg, hc]
    rintro rfl
    exact hi _ he

/-- Whether a configuration has a listener opened; the authenticated one always is. -/
def enables (c : Config) : Listener → Bool
  | .http => c.http.enabled
  | .websocket => c.websocket.enabled
  | .auth => true

theorem Live.isOk_address (h : Live s) (l : Listener) :
    (s.node.address l).isOk = enables s.node.config l := by
  induction h with
  | start h now =>
    obtain ⟨a, rfl, hh, hw⟩ := Node.start_eq_ok h
    cases l with
    | http => exact (Node.isOk_enabledAddress _ _).trans hh
    | websocket => exact (Node.isOk_enabledAddress _ _).trans hw
    | auth => rfl
  | step h input ih =>
    obtain ⟨metrics, connections, opened, he⟩ := System.step_node _ input
    rw [he]
    exact ih

end System

end TokenGate
