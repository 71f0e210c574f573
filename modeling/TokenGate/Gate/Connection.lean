import TokenGate.Gate.Session
import TokenGate.Http.Socket
import TokenGate.Rpc.Router
/-!
An open connection: every message on it is answered by the router, for the caller that the
handshake has made out.
-/
namespace TokenGate.Gate

open Http (Event)

inductive Reaction where
  | reply (text : String)
  | ignore
  | leave
  deriving Repr, DecidableEq

structure Connection where
  session : Session
  router : Rpc.Router
  maxMessageSize : Nat

namespace Connection

/-- The error for a message that is too long. -/
def oversized (max length : Nat) : String :=
  (Rpc.failure .null (.limitExceeded s!"message of {length} bytes (max: {max})")).text

/-- The answer to a message. -/
def answer (c : Connection) (message : String) : String :=
  if c.maxMessageSize < message.utf8ByteSize then
    oversized c.maxMessageSize message.utf8ByteSize
  else (c.router.handleBody message c.session.caller).text

/-- What an event leads to. Bytes are a message if they are text; the socket itself answers a
ping. -/
def react (c : Connection) : Event → Reaction
  | .text message => .reply (c.answer message)
  | .binary b =>
    match Utf8.decode? b with
    | some message => .reply (c.answer message)
    | none => .ignore
  | .ping => .ignore
  | .pong => .ignore
  | .close => .leave
  | .failure => .leave

/-- What is done for a connection, apart from reading from it: the counters learn of it and of its
end, messages are sent, and its session is closed. -/
inductive Effect where
  | connect
  | send (text : String)
  | close
  | disconnect
  deriving Repr, DecidableEq

/-- A session after an effect. -/
def Effect.session : Effect → Session → Session
  | .close, _ => .closed
  | _, session => session

/-- The counters after an effect. -/
def Effect.metrics : Effect → Metrics → Metrics
  | .connect, m => m.connect
  | .disconnect, m => m.disconnect
  | _, m => m

/-- What is done when a connection ends, whatever has ended it. -/
def farewell : List Effect := [.close, .disconnect]

/-- Answers events until the connection is left. Sending may fail after a number of messages; that
ends the connection too. -/
def loop (c : Connection) : List Event → Option Nat → List Effect
  | [], _ => farewell
  | e :: events, sends =>
    match c.react e, sends with
    | .leave, _ => farewell
    | .ignore, sends => c.loop events sends
    | .reply _, some 0 => farewell
    | .reply text, some (n + 1) => .send text :: c.loop events (some n)
    | .reply text, none => .send text :: c.loop events none

/-- Serves a connection to its end. -/
def serve (c : Connection) (events : List Event) (sends : Option Nat) : List Effect :=
  .connect :: c.loop events sends

end Connection

end TokenGate.Gate
