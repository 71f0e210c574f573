import TokenGate.Http.Message
import TokenGate.Http.Socket
import TokenGate.Os.Error
/-!
What clients are connected to.
-/
namespace TokenGate.Client

open Http (Event Request Response)

/-- What becomes of a request for a socket. -/
inductive Connected where
  | accepted (id : Nat)
  | refused (status : Nat)
  deriving Repr, DecidableEq

/-- The other end of clients, with a state of its own. -/
structure Peer (σ : Type) where
  /-- Answers a request, if it is reached. -/
  post : Request → σ → Except Os.Error Response × σ
  /-- Answers a request for a socket, if it is reached. -/
  connect : Request → σ → Except Os.Error Connected × σ
  /-- Takes what is sent over the socket of a number, and sends back. -/
  send : Nat → Event → σ → List Event × σ

/-- A peer that nothing reaches. -/
def Peer.unreachable (e : Os.Error) : Peer σ where
  post _ s := (.error e, s)
  connect _ s := (.error e, s)
  send _ _ s := ([], s)

/-- A socket, with what has come in and has not been read. -/
structure Stream where
  id : Nat
  unread : List Event := []
  isOpen : Bool := true
  deriving Repr, DecidableEq

end TokenGate.Client
