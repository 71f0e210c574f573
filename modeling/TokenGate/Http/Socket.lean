import TokenGate.Text.Utf8
/-!
Sockets that carry messages both ways.
-/
namespace TokenGate.Http

/-- What a socket gives to the one who reads it. -/
inductive Event where
  | text (s : String)
  | binary (b : Bytes)
  | ping
  | pong
  | close
  | failure
  deriving Repr, DecidableEq

/-- How many bytes a message may have on any socket, since it comes in one frame. -/
def maxFrameSize : Nat := 0x100_0000

/-- A socket that takes messages of a number of bytes fails when a longer one comes. -/
def Event.limit (max : Nat) : Event → Event
  | .text s => if min max maxFrameSize < s.utf8ByteSize then .failure else .text s
  | .binary b => if min max maxFrameSize < b.length then .failure else .binary b
  | e => e

end TokenGate.Http
