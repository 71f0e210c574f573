import TokenGate.Http.Bearer
import TokenGate.Token.Validator
/-!
Providers of credentials. A client asks its provider for the header fields of every request that
has to be authenticated; a sequence answers the n-th time through its n-th provider, and stays with
the last one.
-/
namespace TokenGate

inductive ProviderError where
  | invalidHeader
  | emptySequence
  deriving Repr, DecidableEq

def ProviderError.message : ProviderError → String
  | .invalidHeader => "token is not a valid header value"
  | .emptySequence => "provider sequence is empty"

inductive Provider where
  /-- A signed token, issued a number of seconds after the clock. -/
  | signed (secret : Secret) (offset : Int64)
  /-- A token without a signature. -/
  | unsigned
  /-- Any other way to make header fields. It may depend on how often it has been asked before, and
  on the time. -/
  | function (apply : Nat → Instant → Http.Headers → Except ProviderError Http.Headers)
    (asked : Nat)
  /-- A first provider and more of them; the next invocation goes to the one at the position. -/
  | sequence (first : Provider) (rest : List Provider) (position : Nat)

namespace Provider

/-- The sum of two numbers of 64 bits, or the nearest number to it. -/
def saturatingAdd (a b : Int64) : Int64 :=
  Int64.ofInt (max (-0x8000_0000_0000_0000) (min (0x8000_0000_0000_0000 - 1) (a.toInt + b.toInt)))

def setToken (h : Http.Headers) (token : String) : Except ProviderError Http.Headers :=
  (Http.setBearer h token).mapError fun _ => .invalidHeader

/-- A provider that always presents the same token. -/
def token (t : String) : Provider := .function (fun _ _ h => setToken h t) 0

/-- A provider that presents nothing. -/
def nothing : Provider := .function (fun _ _ h => .ok h) 0

def sequenceOf : List Provider → Except ProviderError Provider
  | [] => .error .emptySequence
  | p :: ps => .ok (.sequence p ps 0)

/-- The position after one of a list with the given last position. -/
def nextPosition (last position : Nat) : Nat := if position < last then position + 1 else position

mutual

/-- The header fields that a provider makes of given ones at a point in time, and the provider
afterwards. -/
def invoke : Provider → Instant → Http.Headers → Except ProviderError Http.Headers × Provider
  | .signed secret offset, now, h =>
    let iat := saturatingAdd (Int64.ofInt now.unixSeconds) offset
    (setToken h (Token.encode secret (.issuedAt iat)), .signed secret offset)
  | .unsigned, now, h =>
    (setToken h (Token.encodeUnsigned (.issuedAt (Int64.ofInt now.unixSeconds))), .unsigned)
  | .function f asked, now, h => (f asked now h, .function f (asked + 1))
  | .sequence first rest 0, now, h =>
    let (r, first) := invoke first now h
    (r, .sequence first rest (nextPosition rest.length 0))
  | .sequence first rest (n + 1), now, h =>
    let (r, rest') := invokeAt rest n now h
    (r, .sequence first rest' (nextPosition rest.length (n + 1)))

/-- Invokes the provider at a position of a list. -/
def invokeAt : List Provider → Nat → Instant → Http.Headers →
    Except ProviderError Http.Headers × List Provider
  | [], _, _, _ => (.error .emptySequence, [])
  | p :: ps, 0, now, h =>
    let (r, p) := invoke p now h
    (r, p :: ps)
  | p :: ps, n + 1, now, h =>
    let (r, ps) := invokeAt ps n now h
    (r, p :: ps)

end

/-- The index of the provider that a sequence uses next. -/
def position? : Provider → Option Nat
  | .sequence _ _ position => some position
  | _ => none

end Provider

end TokenGate
