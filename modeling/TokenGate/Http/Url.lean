import TokenGate.HostName.Basic
import TokenGate.Net.AddressReader
import TokenGate.Text.Utf8
/-!
Addresses of the World Wide Web that begin with `http://` or `https://`: where they lead, and what
is asked for there. Slashes may be backslashes, and tabs and line breaks count as nothing.
-/
namespace TokenGate.Http

inductive UrlFault where
  | emptyHost
  | invalidHost
  | invalidV4
  | invalidV6
  | invalidPort
  deriving Repr, DecidableEq

def UrlFault.message : UrlFault → String
  | .emptyHost => "empty host"
  | .invalidHost => "invalid international domain name"
  | .invalidV4 => "invalid IPv4 address"
  | .invalidV6 => "invalid IPv6 address"
  | .invalidPort => "invalid port number"

/-- A host with a port, if one is given, and the path with what follows it. -/
structure Url where
  host : String
  port : Option UInt16
  target : String
  deriving Repr, DecidableEq

namespace Url

def isSlash (c : Char) : Bool := c = '/' || c = '\\'

/-- Characters that end the host and the port. -/
def endsAuthority (c : Char) : Bool := isSlash c || c = '?' || c = '#'

def isIgnored (c : Char) : Bool := c = '\t' || c = '\n' || c = '\r'

/-- What follows the last sign `@`, if there is one. -/
def afterUser (cs : List Char) : List Char := (cs.reverse.takeWhile (· ≠ '@')).reverse

/-- Divides a host from its port, at the first colon outside brackets. -/
def splitPort (brackets : Bool) : List Char → List Char × Option (List Char)
  | [] => ([], none)
  | c :: rest =>
    if c = ':' ∧ !brackets then ([], some rest)
    else
      let (host, port) := splitPort (c = '[' || (brackets && c ≠ ']')) rest
      (c :: host, port)

/-- The value of one or two hexadecimal digits after a percent sign. -/
def unescape : List Char → Bytes
  | '%' :: a :: b :: rest =>
    match Net.hexDigitValue? a, Net.hexDigitValue? b with
    | some m, some n => UInt8.ofNat (16 * m + n) :: unescape rest
    | _, _ => 37 :: unescape (a :: b :: rest)
  | c :: rest => Utf8.encode (String.singleton c) ++ unescape rest
  | [] => []

/-- A part of an address of four numbers: decimal, octal after a zero, hexadecimal after `0x`. No
digits after a prefix are zero. -/
def part? (cs : List Char) : Option Nat :=
  let number (base : Nat) (digits : List Char) : Option Nat :=
    digits.foldlM (fun n c => do
      let d ← Net.hexDigitValue? c
      if d < base then some (base * n + d) else none) 0
  match cs with
  | [] => none
  | '0' :: 'x' :: digits => number 16 digits
  | '0' :: 'X' :: digits => number 16 digits
  | '0' :: c :: digits => number 8 (c :: digits)
  | digits => number 10 digits

/-- Parts between points; a point at the end is left out. -/
def partsOf (host : List Char) : List (List Char) :=
  let parts := host.splitOn '.'
  if parts.getLast? = some [] ∧ 1 < parts.length then parts.dropLast else parts

/-- Whether a host is an address of four numbers, well written or not. -/
def endsInNumber (host : List Char) : Bool :=
  match (partsOf host).getLast? with
  | some part => (!part.isEmpty && part.all Char.isDigit) || (part? part).isSome
  | none => false

/-- The last part fills what the others leave of 32 bits. -/
def v4? (host : List Char) : Option Net.IpAddr := do
  let numbers ← (partsOf host).mapM part?
  let last ← numbers.getLast?
  let first := numbers.dropLast
  if 4 < numbers.length ∨ first.any (255 < ·) ∨ Nat.pow 256 (4 - first.length) ≤ last then none
  let n := first.zipIdx.foldl (fun n (x, i) => n + x * Nat.pow 256 (3 - i)) last
  let byte (i : Nat) : UInt8 := UInt8.ofNat (n / Nat.pow 256 i % 256)
  return .v4 (byte 3) (byte 2) (byte 1) (byte 0)

/-- Reads a host: a name or an address. -/
def readHost (cs : List Char) : Except UrlFault String :=
  match cs with
  | [] => .error .emptyHost
  | '[' :: rest =>
    if rest.getLast? ≠ some ']' then .error .invalidV6
    else
      match Net.v6? rest.dropLast with
      | some (a, []) => .ok s!"[{a.text}]"
      | _ => .error .invalidV6
  | cs =>
    match Utf8.decode? (unescape cs) >>= fun name => HostName.read? name.toList with
    | none => .error .invalidHost
    | some name =>
      if name.isEmpty then .error .emptyHost
      else if endsInNumber name then
        match v4? name with
        | some a => .ok a.text
        | none => .error .invalidV4
      else .ok (String.ofList name)

/-- Reads a port; none is given if there are no digits. -/
def readPort (cs : List Char) : Except UrlFault (Option UInt16) :=
  if !cs.all Char.isDigit then .error .invalidPort
  else if cs = [] then .ok none
  else
    let n := Text.ofDigits cs
    if n < 65536 then .ok (some (UInt16.ofNat n)) else .error .invalidPort

/-- Reads what follows the scheme; blanks at the end are left out. -/
def parse (s : String) : Except UrlFault Url := do
  let cs := (s.toList.reverse.dropWhile (·.toNat ≤ 32)).reverse
  let cs := (cs.filter fun c => !isIgnored c).dropWhile isSlash
  let authority := cs.takeWhile fun c => !endsAuthority c
  let rest := (cs.dropWhile fun c => !endsAuthority c).takeWhile (· ≠ '#')
  let (name, digits) := splitPort false (afterUser authority)
  let target := if rest.head?.any isSlash then rest.drop 1 else rest
  let host ← readHost name
  let port ← readPort (digits.getD [])
  return { host, port, target := String.ofList ('/' :: target) }

end Url

end TokenGate.Http
