import TokenGate.Client.Error
import TokenGate.Http.Target
import TokenGate.Http.Uri
import TokenGate.Http.Url
import TokenGate.Text.Quoted
/-!
Endpoints that clients dial. The scheme tells how calls are carried.
-/
namespace TokenGate.Client

inductive Carrier where
  | http
  | websocket
  deriving Repr, DecidableEq

structure Endpoint where
  carrier : Carrier
  /-- The path of requests, with its query. -/
  target : String
  /-- Whether the address or its scheme names a port to connect to. -/
  hasPort : Bool
  deriving Repr, DecidableEq

/-- What stands before and after the first `://`. -/
def splitScheme (s : String) : Option (String × String) :=
  let cs := s.toList
  (Http.afterScheme? cs).map fun rest =>
    (String.ofList (cs.take (cs.length - rest.length - 3)), String.ofList rest)

/-- Carriers are found by schemes in any case. -/
def carrier? (scheme : String) : Option Carrier :=
  match Http.lower scheme with
  | "http" => some .http
  | "https" => some .http
  | "ws" => some .websocket
  | "wss" => some .websocket
  | _ => none

/-- Schemes in lower case that name a port for sockets. -/
def socketSchemes : List String := ["ws", "wss"]

/-- Reads an endpoint. -/
def Endpoint.parse (s : String) : Except Error Endpoint :=
  match splitScheme s with
  | none => .error (.invalidEndpoint s)
  | some (scheme, rest) =>
    match carrier? scheme with
    | none => .error (.invalidEndpoint ("unsupported scheme " ++ Text.quoted scheme))
    | some .http =>
      match Http.Url.parse rest with
      | .ok url => .ok ⟨.http, url.target, true⟩
      | .error fault => .error (.invalidEndpoint s!"{s}: {fault.message}")
    | some .websocket =>
      match Http.Uri.parse s.utf8ByteSize rest with
      | .ok uri =>
        .ok ⟨.websocket, uri.target, socketSchemes.contains scheme || uri.port?.isSome⟩
      | .error fault => .error (.invalidEndpoint s!"{s}: HTTP format error: {fault.message}")

end TokenGate.Client
