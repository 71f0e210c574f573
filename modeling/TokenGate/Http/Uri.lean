import TokenGate.Text.Decimal
/-!
Identifiers of resources as requests for sockets use them: an authority and a path with a query.
-/
namespace TokenGate.Http

inductive UriFault where
  | empty
  | tooLong
  | character
  | authority
  | format
  deriving Repr, DecidableEq

def UriFault.message : UriFault → String
  | .empty => "empty string"
  | .tooLong => "uri too long"
  | .character => "invalid uri character"
  | .authority => "invalid authority"
  | .format => "invalid format"

/-- What follows the scheme: an authority, and a path with its query. -/
structure Uri where
  authority : String
  target : String
  deriving Repr, DecidableEq

namespace Uri

/-- The port that ends an authority. -/
def port? (u : Uri) : Option Nat :=
  let cs := u.authority.toList
  if cs.contains ':' then
    Text.unsigned? 65536 (String.ofList (cs.reverse.takeWhile (· ≠ ':')).reverse)
  else none

/-- How many bytes an identifier may have. -/
def maxLength : Nat := 65534

def isAuthorityChar (c : Char) : Bool := c.isAlphanum || "!$&'()*+,-.:;=@[]_~".toList.contains c

/-- Characters that end an authority. -/
def endsAuthority (c : Char) : Bool := c = '/' || c = '?' || c = '#'

def isQueryChar (c : Char) : Bool :=
  let n := c.toNat
  n = 0x21 || (0x24 ≤ n && n ≤ 0x3B) || n = 0x3D || (0x3F ≤ n && n ≠ 0x7F)

def isPathChar (c : Char) : Bool :=
  (isQueryChar c && c ≠ '?' && c ≠ '\x60') || c = '"'

/-- What has been seen of an authority. -/
structure Seen where
  colons : Nat := 0
  opened : Bool := false
  closed : Bool := false
  percent : Bool := false

/-- Takes one character into account: brackets once around colons, a percent sign only before the
sign `@` or inside brackets. -/
def Seen.next (s : Seen) (c : Char) : Except UriFault Seen :=
  if c = ':' then
    if 8 ≤ s.colons then .error .authority else .ok { s with colons := s.colons + 1 }
  else if c = '[' then
    if s.percent ∨ s.opened then .error .authority else .ok { s with opened := true }
  else if c = ']' then
    if !s.opened ∨ s.closed then .error .authority
    else .ok { s with closed := true, colons := 0, percent := false }
  else if c = '@' then .ok { s with colons := 0, percent := false }
  else if c = '%' then .ok { s with percent := true }
  else if isAuthorityChar c then .ok s
  else .error .character

def checkAuthority (cs : List Char) : Except UriFault Unit := do
  let s ← cs.foldlM Seen.next {}
  if s.opened != s.closed ∨ 1 < s.colons ∨ cs.getLast? = some '@' ∨ s.percent then
    throw .authority

/-- A path with its query; a fragment is left out. -/
def readTarget (cs : List Char) : Except UriFault String := do
  let cs := cs.takeWhile (· ≠ '#')
  let path := cs.takeWhile (· ≠ '?')
  let query := (cs.dropWhile (· ≠ '?')).drop 1
  if !path.all isPathChar ∨ !query.all isQueryChar then throw .character
  return if path.isEmpty then String.ofList ('/' :: cs) else String.ofList cs

/-- Reads what follows the scheme, of an identifier with a number of bytes. -/
def parse (length : Nat) (s : String) : Except UriFault Uri := do
  if maxLength < length then throw .tooLong
  let cs := s.toList
  if cs.isEmpty then throw .empty
  let authority := cs.takeWhile fun c => !endsAuthority c
  checkAuthority authority
  if authority.isEmpty then throw .format
  return ⟨String.ofList authority, ← readTarget (cs.dropWhile fun c => !endsAuthority c)⟩

end Uri

end TokenGate.Http
