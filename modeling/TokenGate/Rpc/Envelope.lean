import TokenGate.Rpc.Error
/-!
The envelopes of requests and responses.
-/
namespace TokenGate.Rpc

/-- How many bytes a text that serves as an id may have. -/
def maxIdLength : Nat := 256

/-- The id that a response bears for the id of a request: null if the request has none. -/
def validateId : Option Json → Except Error Json
  | none => .ok .null
  | some .null => .error (.invalidRequest "null id (notifications not supported)")
  | some (.str s) =>
    if s.utf8ByteSize = 0 then .error (.invalidRequest "empty string id")
    else if maxIdLength < s.utf8ByteSize then
      .error (.invalidRequest s!"id string too long (max {maxIdLength} chars)")
    else .ok (.str s)
  | some (.num n) => .ok (.num n)
  | some _ => .error (.invalidRequest "id must be string or number")

def success (id result : Json) : Json :=
  .obj [("id", id), ("jsonrpc", .str "2.0"), ("result", result)]

def failure (id : Json) (e : Error) : Json :=
  .obj [("error", e.toValue), ("id", id), ("jsonrpc", .str "2.0")]

/-- The response that a result gives. -/
def respond (id : Json) : Except Error Json → Json
  | .ok result => success id result
  | .error e => failure id e

end TokenGate.Rpc
