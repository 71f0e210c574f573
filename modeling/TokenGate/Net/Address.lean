import TokenGate.Text.Decimal
/-!
Addresses of the Internet protocol, with and without a port.
-/
namespace TokenGate.Net

inductive IpAddr where
  | v4 (a b c d : UInt8)
  | v6 (segments : Vector UInt16 8)
  deriving Repr, DecidableEq

namespace IpAddr

def localhost : IpAddr := .v4 127 0 0 1

/-- Whether an address stands for every address of its kind. -/
def isUnspecified : IpAddr → Bool
  | .v4 a b c d => a == 0 && b == 0 && c == 0 && d == 0
  | .v6 s => s.toList.all (· == 0)

end IpAddr

/-- Octets with points between them. -/
def octetChars (a b c d : Nat) : List Char :=
  Text.digits a ++ '.' :: Text.digits b ++ '.' :: Text.digits c ++ '.' :: Text.digits d

/-- Segments in hexadecimal with colons between them. -/
def segmentChars : List Nat → List Char
  | [] => []
  | [n] => Text.hexDigits n
  | n :: rest => Text.hexDigits n ++ ':' :: segmentChars rest

/-- How many zeros a list begins with. -/
def leadingZeros : List Nat → Nat
  | 0 :: rest => leadingZeros rest + 1
  | _ => 0

/-- The start and the length of the first of the longest runs of zeros. -/
def longestZeros (index : Nat) : List Nat → Nat × Nat
  | [] => (index, 0)
  | n :: rest =>
    let here := leadingZeros (n :: rest)
    let (start, length) := longestZeros (index + 1) rest
    if length ≤ here then (index, here) else (start, length)

/-- Two or more zeros are left out once. An address of the older kind that is mapped into the newer
one keeps its points. -/
def v6Chars (segments : List Nat) : List Char :=
  match segments with
  | [0, 0, 0, 0, 0, 0xffff, g, h] =>
    "::ffff:".toList ++ octetChars (g / 256) (g % 256) (h / 256) (h % 256)
  | segments =>
    let (start, length) := longestZeros 0 segments
    if length ≤ 1 then segmentChars segments
    else
      segmentChars (segments.take start) ++ ':' :: ':' ::
        segmentChars (segments.drop (start + length))

def IpAddr.chars : IpAddr → List Char
  | .v4 a b c d => octetChars a.toNat b.toNat c.toNat d.toNat
  | .v6 s => v6Chars (s.toList.map (·.toNat))

def IpAddr.text (a : IpAddr) : String := String.ofList a.chars

/-- An address with a port. -/
structure SocketAddr where
  ip : IpAddr
  port : UInt16
  deriving Repr, DecidableEq

def SocketAddr.text (a : SocketAddr) : String :=
  match a.ip with
  | .v4 .. => s!"{a.ip.text}:{a.port.toNat}"
  | .v6 _ => s!"[{a.ip.text}]:{a.port.toNat}"

end TokenGate.Net
