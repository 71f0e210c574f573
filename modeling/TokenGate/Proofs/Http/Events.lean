import TokenGate.Http.Socket
/-!
What events on a socket bring: messages up to its end, and other events, which bring nothing.
-/
namespace TokenGate.Http.Event

/-- A text is a message, and so are bytes that are a text. -/
def message? : Event → Option String
  | .text s => some s
  | .binary b => Utf8.decode? b
  | _ => none

/-- Nothing comes on a socket after a close or a failure. -/
def Ends (e : Event) : Prop := e = .close ∨ e = .failure

instance : DecidablePred Ends := fun e => inferInstanceAs (Decidable (e = .close ∨ e = .failure))

/-- The messages that come before the end. -/
def messages (events : List Event) : List String :=
  (events.takeWhile (¬ ·.Ends)).filterMap message?

variable {e : Event}

theorem messages_of_ends (h : e.Ends) (events : List Event) : messages (e :: events) = [] := by
  simp only [messages, List.takeWhile_cons, h, not_true, decide_false, Bool.false_eq_true, if_false,
    List.filterMap_nil]

theorem messages_cons (h : ¬ e.Ends) (events : List Event) :
    messages (e :: events) = e.message?.toList ++ messages events := by
  simp only [messages, List.takeWhile_cons, h, not_false_eq_true, decide_true, if_true,
    List.filterMap_cons]
  cases e.message? with
  | none => rfl
  | some message => rfl

end TokenGate.Http.Event
