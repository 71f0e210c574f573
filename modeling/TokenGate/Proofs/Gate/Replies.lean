import Mathlib.Data.List.Forall2
import TokenGate.Gate.Connection
import TokenGate.Proofs.Http.Events
/-!
An open connection answers every message once, and in order, until it is left; whatever makes it
leave, its session is closed and the counters have learnt of it once and of its end once.
-/
namespace TokenGate.Gate.Connection

open Http (Event)

/-- The reply that is due to a message: the answer of the router for the caller that the session
stands for, unless the message is too long. -/
inductive Due (c : Connection) (message : String) : String → Prop where
  | answer (h : message.utf8ByteSize ≤ c.maxMessageSize) :
      Due c message (c.router.handleBody message c.session.caller).text
  | refusal (h : c.maxMessageSize < message.utf8ByteSize) :
      Due c message (Rpc.failure .null ⟨-32005, "Limit exceeded: " ++
        s!"message of {message.utf8ByteSize} bytes (max: {c.maxMessageSize})", none⟩).text

/-- As many as can be sent, when the sending fails after a number of messages. -/
def sendable (sends : Option Nat) (texts : List α) : List α :=
  match sends with
  | none => texts
  | some n => texts.take n

variable (c : Connection)

theorem due_answer (message : String) : c.Due message (c.answer message) := by
  rw [answer]
  split
  · next h => exact .refusal h
  · next h => exact .answer (Nat.le_of_not_lt h)

theorem react_of_ends (h : e.Ends) : c.react e = .leave := by
  rcases h with rfl | rfl <;> rfl

theorem react_of_message (h : e.message? = some message) :
    c.react e = .reply (c.answer message) := by
  cases e with
  | text s =>
    cases h
    rfl
  | binary b =>
    have hb : Utf8.decode? b = some message := h
    simp only [react, hb]
  | ping => cases h
  | pong => cases h
  | close => cases h
  | failure => cases h

theorem react_of_no_message (h : ¬ e.Ends) (hm : e.message? = none) : c.react e = .ignore := by
  cases e with
  | text s => cases hm
  | binary b =>
    have hb : Utf8.decode? b = none := hm
    simp only [react, hb]
  | ping => rfl
  | pong => rfl
  | close => exact (h (.inl rfl)).elim
  | failure => exact (h (.inr rfl)).elim

/-- The loop sends the answers to the messages, as many as it can, and then leaves. -/
theorem loop_eq (events : List Event) (sends : Option Nat) :
    c.loop events sends =
      ((sendable sends (Event.messages events)).map fun m => .send (c.answer m)) ++ farewell := by
  induction events generalizing sends with
  | nil => cases sends <;> simp [loop, sendable, Event.messages]
  | cons e events ih =>
    by_cases he : e.Ends
    · rw [Event.messages_of_ends he]
      simp only [loop, c.react_of_ends he]
      cases sends <;> simp [sendable]
    · rw [Event.messages_cons he]
      cases hm : e.message? with
      | none =>
        simp only [loop, c.react_of_no_message he hm]
        exact ih sends
      | some message =>
        simp only [loop, c.react_of_message hm]
        cases sends with
        | none => exact congrArg (Effect.send _ :: ·) (ih none)
        | some n =>
          cases n with
          | zero => rfl
          | succ n => exact congrArg (Effect.send _ :: ·) (ih (some n))

theorem foldl_metrics_send (texts : List String) (m : Metrics) :
    (texts.map Effect.send).foldl (fun m f => f.metrics m) m = m := by
  induction texts with
  | nil => rfl
  | cons text texts ih => exact ih

/-- Whatever comes in, and wherever the sending fails, every message before the end of the
connection that can be answered is answered once, in the order in which they come, and nothing else
is sent. The connection is counted once, and at its end the session is closed and the count taken
back. -/
theorem serve_replies (events : List Event) (sends : Option Nat) :
    ∃ texts, List.Forall₂ c.Due (sendable sends (Event.messages events)) texts ∧
      c.serve events sends = .connect :: (texts.map .send ++ [.close, .disconnect]) ∧
      (c.serve events sends).foldl (fun s f => f.session s) c.session = .closed ∧
      ∀ m, (c.serve events sends).foldl (fun m f => f.metrics m) m = m.connect.disconnect := by
  let texts := (sendable sends (Event.messages events)).map c.answer
  have hs : c.serve events sends = .connect :: (texts.map .send ++ [.close, .disconnect]) := by
    rw [serve, loop_eq, List.map_map]
    rfl
  refine ⟨texts, ?_, hs, ?_, ?_⟩
  · rw [List.forall₂_map_right_iff, List.forall₂_same]
    intro message _
    exact c.due_answer message
  · rw [hs, List.foldl_cons, List.foldl_append]
    rfl
  · intro m
    rw [hs, List.foldl_cons, List.foldl_append, foldl_metrics_send]
    rfl

end TokenGate.Gate.Connection
