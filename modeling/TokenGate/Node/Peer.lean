import TokenGate.Client.Peer
import TokenGate.Node.Serving
/-!
A listener of a node as what clients are connected to.
-/
namespace TokenGate.Node

open Client (Connected)
open Http (Event Request Response)

/-- Passes a request to a listener that is open. -/
def deliver (n : Node) (l : Listener) (now : Instant) (request : Request) :
    Except Os.Error Outcome × Node :=
  match n.address l with
  | .error _ => (.error .connectionRefused, n)
  | .ok _ =>
    let (outcome, n) := n.handle l now request
    (.ok outcome, n)

/-- The response by which a request becomes a connection. -/
def switching : Response := { status := 101 }

def Outcome.toResponse : Outcome → Response
  | .response r => r
  | .connected _ => switching

def Outcome.toConnected : Outcome → Connected
  | .response r => .refused r.status
  | .connected id => .accepted id

/-- What a client gets back for what it sends on a connection. A node that leaves one answers a
request to close, and otherwise just goes away. -/
def echo (n : Node) (id : Nat) (e : Event) : List Event × Node :=
  let (reply, after) := n.receive id e
  let events := match reply with
    | some text => [.text text]
    | none =>
      if (after.connection? id).isSome then []
      else if e = .close then [.close]
      else [.failure]
  (events, after)

/-- A listener at a point in time, as its clients see it. -/
def peer (l : Listener) (now : Instant) : Client.Peer Node where
  post request n :=
    let (r, n) := n.deliver l now request
    (r.map Outcome.toResponse, n)
  connect request n :=
    let (r, n) := n.deliver l now request
    (r.map Outcome.toConnected, n)
  send id e n := n.echo id e

end TokenGate.Node
