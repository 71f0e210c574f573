import TokenGate.Proofs.Client.Requests
import TokenGate.Proofs.Client.Socket
/-!
One client in the run of a system: its calls are inputs of the system, between which others come in,
and its socket stays as it is or is lost.
-/
namespace TokenGate

open Client (payload)

/-- A client that is connected to a system. -/
structure Dialogue where
  client : Client
  system : System

/-- The client calls a method at a time of its own clock, or the system takes an input that is not
the client's. -/
inductive Move where
  | call (method : String) (params : Json) (now : Instant)
  | other (input : Input)

/-- Nobody else sends over the client's socket. -/
def Move.Spares (socket : Nat) : Move → Prop
  | .other (.frame id _) => id ≠ socket
  | _ => True

/-- If it is a call, its payload is not too long. -/
def Move.Fits (d : Dialogue) : Move → Prop
  | .call method params _ => d.client.Fits d.system.node method params
  | .other _ => True

namespace Dialogue

variable {α : Type}

/-- The client calls a method of the listener to which it is connected. -/
def call (d : Dialogue) (l : Listener) (decoder : Json.Decoder α) (method : String) (params : Json)
    (now : Instant) : Except Client.Error α × Dialogue :=
  let (r, client, node) :=
    d.client.call (Node.peer l d.system.now) decoder method params now d.system.node
  (r, { client, system := { d.system with node } })

def step (l : Listener) (d : Dialogue) : Move → Dialogue
  | .call method params now => (d.call l .any method params now).2
  | .other input => { d with system := (d.system.step input).2 }

def after (d : Dialogue) (l : Listener) (moves : List Move) : Dialogue := moves.foldl (step l) d

/-- The client is connected to a listener over a socket on which nothing waits to be read. -/
structure Open (l : Listener) (socket : Nat) (d : Dialogue) : Prop where
  transport : d.client.transport = .websocket { id := socket }
  connection : d.system.node.connections.lookup socket = some (l, l.session)

/-- In none of the calls of a run is the payload too long. -/
def AllFit (l : Listener) : Dialogue → List Move → Prop
  | _, [] => True
  | d, move :: moves => move.Fits d ∧ AllFit l (d.step l move) moves

/-- The socket of the client has ended. -/
def Lost (socket : Nat) (d : Dialogue) : Prop :=
  d.client.transport = .websocket ⟨socket, [], false⟩

variable {d : Dialogue} {l : Listener} {socket : Nat} {move : Move} {moves : List Move}

theorem allFit_append {xs ys : List Move} :
    AllFit l d (xs ++ ys) ↔ AllFit l d xs ∧ AllFit l (d.after l xs) ys := by
  induction xs generalizing d with
  | nil => exact (Iff.of_eq (true_and _)).symm
  | cons x xs ih => exact (and_congr_right fun _ => ih).trans and_assoc.symm

/-- What a client does in a call is an input of the system, if it does anything. -/
theorem call_system (d : Dialogue) (l : Listener) (decoder : Json.Decoder α) (method : String)
    (params : Json) (now : Instant) :
    ∃ inputs, (d.call l decoder method params now).2.system = d.system.after inputs := by
  cases ht : d.client.transport with
  | http target =>
    rcases hc : Client.credentials d.client.provider now [] with ⟨e | fields, provider⟩
    · refine ⟨[], ?_⟩
      simp only [call, Client.call_of_error ht hc]
      rfl
    · let body := payload d.client.nextId method params
      refine ⟨[.request l (Client.callRequest target fields body)], ?_⟩
      simp only [call, Client.call_of_ok ht hc]
      rfl
  | websocket stream =>
    simp only [call, Client.call, ht, Client.ask, Client.transmit]
    generalize payload d.client.nextId method params = body
    cases stream.isOpen with
    | false => exact ⟨[], rfl⟩
    | true => exact ⟨[.frame stream.id (.text body.text)], rfl⟩

theorem after_system (d : Dialogue) (l : Listener) (moves : List Move) :
    ∃ inputs, (d.after l moves).system = d.system.after inputs := by
  induction moves generalizing d with
  | nil => exact ⟨[], rfl⟩
  | cons move moves ih =>
    have hs : ∃ inputs, (d.step l move).system = d.system.after inputs := by
      cases move with
      | call method params now => exact d.call_system l .any method params now
      | other input => exact ⟨[input], rfl⟩
    obtain ⟨first, hs⟩ := hs
    obtain ⟨rest, ih⟩ := ih (d.step l move)
    refine ⟨first ++ rest, ih.trans ?_⟩
    rw [System.after_append, hs]

theorem after_node (d : Dialogue) (l : Listener) (moves : List Move) :
    ∃ metrics connections opened,
      (d.after l moves).system.node = { d.system.node with metrics, connections, opened } := by
  obtain ⟨inputs, h⟩ := d.after_system l moves
  rw [h]
  exact d.system.after_node inputs

theorem Open.step (h : Open l socket d) (hs : move.Spares socket) (hf : move.Fits d) :
    Open l socket (d.step l move) := by
  cases move with
  | call method params now =>
    have hc := Client.call_open h.transport h.connection hf .any now d.system.now
    constructor
    · simp only [Dialogue.step, call, hc]
      exact h.transport
    · simp only [Dialogue.step, call, hc]
      exact h.connection
  | other input =>
    refine ⟨h.transport, System.lookup_step h.connection ?_⟩
    rintro e rfl
    exact hs rfl

theorem Open.lost (h : Open l socket d) (hf : ¬ move.Fits d) : Lost socket (d.step l move) := by
  cases move with
  | call method params now =>
    obtain ⟨reason, hc⟩ :=
      Client.call_oversized h.transport h.connection hf Json.Decoder.any now d.system.now
    simp only [Lost, Dialogue.step, call, hc]
  | other input => exact (hf trivial).elim

theorem Lost.step (h : Lost socket d) : Lost socket (d.step l move) := by
  cases move with
  | call method params now =>
    obtain ⟨reason, hc⟩ := @Client.call_lost _ _ d.client socket method params h
      (Node.peer l d.system.now) .any now d.system.node
    simp only [Lost, Dialogue.step, call, hc]
    exact h
  | other input => exact h

theorem Open.after (h : Open l socket d) (hs : ∀ move ∈ moves, move.Spares socket)
    (hf : AllFit l d moves) : Open l socket (d.after l moves) := by
  induction moves generalizing d with
  | nil => exact h
  | cons move moves ih =>
    obtain ⟨hs, hrest⟩ := List.forall_mem_cons.1 hs
    exact ih (h.step hs hf.1) hrest hf.2

theorem Lost.after (h : Lost socket d) : Lost socket (d.after l moves) := by
  induction moves generalizing d with
  | nil => exact h
  | cons move moves ih => exact ih h.step

theorem Open.lost_after (h : Open l socket d) (hs : ∀ move ∈ moves, move.Spares socket)
    (hf : ¬ AllFit l d moves) : Lost socket (d.after l moves) := by
  induction moves generalizing d with
  | nil => exact (hf trivial).elim
  | cons move moves ih =>
    obtain ⟨hs, hrest⟩ := List.forall_mem_cons.1 hs
    by_cases hm : move.Fits d
    · exact ih (h.step hs hm) hrest fun ha => hf ⟨hm, ha⟩
    · exact (h.lost hm).after

/-- Over one socket every call is answered by the router of the listener, for the caller that the
listener has let in, up to the first payload that is too long. From there on every call fails. -/
theorem Open.call_after (h : Open l socket d) (hs : ∀ move ∈ moves, move.Spares socket)
    (decoder : Json.Decoder α) (method : String) (params : Json) (now : Instant) :
    (AllFit l d (moves ++ [.call method params now]) →
      ((d.after l moves).call l decoder method params now).1 =
        Client.answered (d.system.node.router l) l.caller decoder (d.after l moves).client.nextId
          method params) ∧
    (¬ AllFit l d (moves ++ [.call method params now]) →
      ∃ reason, ((d.after l moves).call l decoder method params now).1 =
        .error (.transport reason)) := by
  rw [allFit_append]
  constructor
  · rintro ⟨hf, hlast, -⟩
    have ho := h.after hs hf
    have hc := Client.call_open ho.transport ho.connection hlast decoder now
      (d.after l moves).system.now
    obtain ⟨_, _, _, hn⟩ := d.after_node l moves
    have hr : (d.after l moves).system.node.router l = d.system.node.router l := by
      rw [hn]
      rfl
    simp only [call, hc, hr]
  · intro hf
    by_cases hm : AllFit l d moves
    · have ho := h.after hs hm
      have hlast : ¬ (d.after l moves).client.Fits (d.after l moves).system.node method params :=
        fun hlast => hf ⟨hm, hlast, trivial⟩
      obtain ⟨reason, hc⟩ := Client.call_oversized ho.transport ho.connection hlast decoder now
        (d.after l moves).system.now
      exact ⟨reason, congrArg Prod.fst hc⟩
    · obtain ⟨reason, hc⟩ := Client.call_lost (h.lost_after hs hm)
        (Node.peer l (d.after l moves).system.now) decoder now (d.after l moves).system.node
      exact ⟨reason, congrArg Prod.fst hc⟩

end Dialogue

end TokenGate
