import TokenGate.Config.Basic
import TokenGate.Json.Decoder
import TokenGate.Time.DurationText
/-!
Configurations as JSON. Every field may be missing; it then has its default.
-/
namespace TokenGate.Config

open Json (Decoder)

def strings (xs : List String) : Json := .arr (xs.map .str)

def Http.toJson (c : Http) : Json :=
  .obj [("host", .str c.host.text), ("port", Json.ofInt c.port.toNat),
    ("enabled", .bool c.enabled), ("modules", strings c.modules),
    ("max_batch_size", Json.ofInt c.maxBatchSize.toNat)]

def WebSocket.toJson (c : WebSocket) : Json :=
  .obj [("host", .str c.host.text), ("port", Json.ofInt c.port.toNat),
    ("enabled", .bool c.enabled), ("modules", strings c.modules),
    ("max_message_size", Json.ofInt c.maxMessageSize.toNat)]

def Auth.toJson (c : Auth) : Json :=
  .obj [("host", .str c.host.text), ("port", Json.ofInt c.port.toNat),
    ("jwt_secret", .str c.secretPath), ("clock_skew_tolerance", .str c.tolerance.text)]

def toJson (c : Config) : Json :=
  .obj [("http", c.http.toJson), ("websocket", c.websocket.toJson), ("auth", c.auth.toJson)]

def hostDecoder : Decoder Net.IpAddr :=
  .spelled "IP address" fun s =>
    match Net.IpAddr.parse? s with
    | some a => .ok a
    | none => .error (.other "invalid IP address syntax")

def portDecoder : Decoder UInt16 := (Decoder.natural 16).map UInt16.ofNat

/-- A limit is as wide as an address of memory. -/
def limitDecoder : Decoder UInt64 :=
  (Decoder.integer "usize" 0 (0x1_0000_0000_0000_0000 - 1)).map fun i => UInt64.ofNat i.toNat

def pathDecoder : Decoder String := .spelled "path string" .ok

def toleranceDecoder : Decoder Duration :=
  Decoder.string.refine fun s => (Duration.parse s).mapError fun e => .other e.message

def Http.decoder : Decoder Http :=
  .record "HttpConfig" [
    .of "host" .defaulted hostDecoder fun host c => { c with host },
    .of "port" .defaulted portDecoder fun port c => { c with port },
    .of "enabled" .defaulted .bool fun enabled c => { c with enabled },
    .of "modules" .defaulted (.list .string) fun modules c => { c with modules },
    .of "max_batch_size" .defaulted limitDecoder fun maxBatchSize c => { c with maxBatchSize }] {}

def WebSocket.decoder : Decoder WebSocket :=
  .record "WebSocketConfig" [
    .of "host" .defaulted hostDecoder fun host c => { c with host },
    .of "port" .defaulted portDecoder fun port c => { c with port },
    .of "enabled" .defaulted .bool fun enabled c => { c with enabled },
    .of "modules" .defaulted (.list .string) fun modules c => { c with modules },
    .of "max_message_size" .defaulted limitDecoder
      fun maxMessageSize c => { c with maxMessageSize }] {}

def Auth.decoder : Decoder Auth :=
  .record "AuthConfig" [
    .of "host" .defaulted hostDecoder fun host c => { c with host },
    .of "port" .defaulted portDecoder fun port c => { c with port },
    .of "jwt_secret" .defaulted pathDecoder fun secretPath c => { c with secretPath },
    .of "clock_skew_tolerance" .defaulted toleranceDecoder
      fun tolerance c => { c with tolerance }] {}

def decoder : Decoder Config :=
  .record "GatewayConfig" [
    .of "http" .defaulted Http.decoder fun http c => { c with http },
    .of "websocket" .defaulted WebSocket.decoder fun websocket c => { c with websocket },
    .of "auth" .defaulted Auth.decoder fun auth c => { c with auth }] {}

end TokenGate.Config
