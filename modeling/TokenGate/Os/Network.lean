import TokenGate.Net.Overlap
import TokenGate.Os.Error
/-!
The addresses that listeners of a machine are bound to.
-/
namespace TokenGate.Os

open Net (IpAddr SocketAddr)

/-- Whether a listener that is open keeps others from an address. -/
def isTaken (inUse : List SocketAddr) (addr : SocketAddr) : Bool :=
  inUse.any fun other => other.port == addr.port && other.ip.overlaps addr.ip

/-- The first port that is free among a number of consecutive ones. -/
def firstFree (inUse : List SocketAddr) (ip : IpAddr) : Nat → Nat → Option SocketAddr
  | 0, _ => none
  | count + 1, port =>
    let addr : SocketAddr := ⟨ip, UInt16.ofNat port⟩
    if isTaken inUse addr then firstFree inUse ip count (port + 1) else some addr

/-- The address that a listener gets; port 0 asks for any port that is free. -/
def choose (inUse : List SocketAddr) (addr : SocketAddr) : Option SocketAddr :=
  if addr.port = 0 then firstFree inUse addr.ip 28232 32768
  else if isTaken inUse addr then none
  else some addr

/-- What is answered to a listener by a machine on which every address can be had that is free, but
for those that it refuses for other reasons. -/
def allot (refusal : SocketAddr → Option Error) (inUse : List SocketAddr) (addr : SocketAddr) :
    Except Error SocketAddr :=
  match refusal addr with
  | some e => .error e
  | none =>
    match choose inUse addr with
    | none => .error .addressInUse
    | some bound => .ok bound

structure Network where
  /-- The addresses of listeners that are open. -/
  inUse : List SocketAddr := []
  /-- The address that a listener gets that asks for one while others are open. -/
  grant : List SocketAddr → SocketAddr → Except Error SocketAddr := allot fun _ => none

namespace Network

/-- A machine that is on no network. It binds every address of the older kind, but has none of the
newer kind; one that reaches many machines, or needs to be told the network, is not even valid. -/
def isolated (inUse : List SocketAddr) : Network where
  inUse
  grant := allot fun addr =>
    match addr.ip.canonical with
    | .v4 .. => none
    | .v6 segments =>
      let first := (segments.get ⟨0, by decide⟩).toNat
      if addr.ip.isUnspecified then none
      else if 0xFF00 ≤ first ∨ (0xFE80 ≤ first ∧ first < 0xFEC0) then some .invalidArgument
      else some .addressNotAvailable

/-- Opens a listener. -/
def bind (n : Network) (addr : SocketAddr) : Except Error (SocketAddr × Network) := do
  let bound ← n.grant n.inUse addr
  return (bound, { n with inUse := bound :: n.inUse })

/-- Closes a listener at each of some addresses. -/
def release (n : Network) (addrs : List SocketAddr) : Network :=
  { n with inUse := addrs.foldl List.erase n.inUse }

end Network

end TokenGate.Os
