import TokenGate.Encoding.Hex
import TokenGate.Text.WhiteSpace
/-!
The secret that a node and its clients share: 32 bytes, written in hexadecimal.
-/
namespace TokenGate

structure Secret where
  bytes : Bytes
  length_eq : bytes.length = 32
  deriving Repr, DecidableEq

namespace Secret

/-- How many bytes a secret has. -/
def size : Nat := 32

inductive ParseError where
  | invalidHex (fault : Hex.Fault)
  | invalidLength (length : Nat)
  deriving Repr, DecidableEq

def ParseError.message : ParseError → String
  | .invalidHex f => "secret is not valid hex: " ++ f.message
  | .invalidLength n => s!"secret must be {size} bytes, got {n}"

/-- Removes one prefix `0x` in either case. -/
def stripPrefix : List Char → List Char
  | '0' :: 'x' :: rest => rest
  | '0' :: 'X' :: rest => rest
  | cs => cs

def ofBytes (b : Bytes) : Except ParseError Secret :=
  if h : b.length = 32 then .ok ⟨b, h⟩ else .error (.invalidLength b.length)

/-- Reads a secret, which may have white space around it and a prefix. -/
def parse (s : String) : Except ParseError Secret :=
  let digits := stripPrefix (Text.strip Text.isWhiteSpace s.toList)
  match Hex.decode (String.ofList digits) with
  | .error f => .error (.invalidHex f)
  | .ok b => ofBytes b

def toHex (s : Secret) : String := "0x" ++ Hex.encode s.bytes

/-- How a secret is shown where it must not be seen. -/
def redacted : String := "JwtSecret(<redacted>)"

end Secret

end TokenGate
