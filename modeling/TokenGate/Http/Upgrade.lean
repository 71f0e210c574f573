import TokenGate.Http.Bearer
import TokenGate.Http.Message
/-!
Requests that turn into sockets: what such a request has to say, and the responses to requests that
do not say it.
-/
namespace TokenGate.Http

/-- Bytes with the letters of ASCII in lower case. -/
def lowerBytes (b : Bytes) : Bytes := b.map fun c => if 65 ≤ c ∧ c ≤ 90 then c + 32 else c

/-- Whether the first value of a name is the given one, in any letter case. -/
def hasValue (h : Headers) (name value : String) : Bool :=
  match h.get? name with
  | some v => lowerBytes v = lowerBytes (Utf8.encode value)
  | none => false

/-- Whether characters stand somewhere among others. -/
def occursIn (part : List Char) : List Char → Bool
  | [] => part.isEmpty
  | c :: rest => part.isPrefixOf (c :: rest) || occursIn part rest

/-- Whether the first value of a name is text in which the given one stands, in any letter
case. -/
def mentions (h : Headers) (name value : String) : Bool :=
  match (h.get? name).bind Utf8.decode? with
  | some v => occursIn value.toList (v.toList.map lowerChar)
  | none => false

/-- The first thing that a request for a socket lacks. -/
inductive UpgradeFault where
  | method
  | connection
  | upgrade
  | version
  | key
  deriving Repr, DecidableEq

def UpgradeFault.message : UpgradeFault → String
  | .method => "Request method must be `GET`"
  | .connection => "Connection header did not include 'upgrade'"
  | .upgrade => "`Upgrade` header did not include 'websocket'"
  | .version => "`Sec-WebSocket-Version` header did not include '13'"
  | .key => "`Sec-WebSocket-Key` header missing"

def UpgradeFault.response (f : UpgradeFault) : Response where
  status := if f = .method then 405 else 400
  headers := [contentType plainType]
  body := f.message

/-- Why a request does not ask for a socket. -/
def upgradeFault? (r : Request) : Option UpgradeFault :=
  if r.method ≠ "GET" then some .method
  else if !mentions r.headers "connection" "upgrade" then some .connection
  else if !hasValue r.headers "upgrade" "websocket" then some .upgrade
  else if !hasValue r.headers "sec-websocket-version" "13" then some .version
  else if (r.headers.get? "sec-websocket-key").isNone then some .key
  else none

/-- The fields of a request for a socket. Its key only shows that the peer understands. -/
def upgradeFields : Headers := [
  ⟨"connection", Utf8.encode "Upgrade"⟩,
  ⟨"upgrade", Utf8.encode "websocket"⟩,
  ⟨"sec-websocket-version", Utf8.encode "13"⟩,
  ⟨"sec-websocket-key", Utf8.encode "dGhlIHNhbXBsZSBub25jZQ=="⟩]

end TokenGate.Http
