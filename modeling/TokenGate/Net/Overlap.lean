import TokenGate.Net.Address
/-!
Which addresses listeners share. An unspecified address stands for others.
-/
namespace TokenGate.Net

/-- An address of the older kind for one that is mapped into the newer kind. -/
def IpAddr.canonical : IpAddr → IpAddr
  | .v4 a b c d => .v4 a b c d
  | .v6 s =>
    match s.toList with
    | [0, 0, 0, 0, 0, 0xffff, g, h] => .v4 (g >>> 8).toUInt8 g.toUInt8 (h >>> 8).toUInt8 h.toUInt8
    | _ => .v6 s

def IpAddr.isV4 : IpAddr → Bool
  | .v4 .. => true
  | .v6 _ => false

/-- Whether a listener at the first address takes what is sent to the second: an unspecified
address of the older kind covers its kind, one of the newer kind covers everything. -/
def IpAddr.covers (a b : IpAddr) : Bool :=
  a.canonical == b.canonical ||
    a.canonical.isUnspecified && (!a.canonical.isV4 || b.canonical.isV4)

/-- Whether two listeners cannot have the same port. -/
def IpAddr.overlaps (a b : IpAddr) : Bool := a.covers b || b.covers a

end TokenGate.Net
