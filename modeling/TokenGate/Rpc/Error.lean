import TokenGate.Encoding.Hex
import TokenGate.Json.Decoder
/-!
Errors that a caller of a remote procedure sees: a code, a message, and data if there are any.
-/
namespace TokenGate.Rpc

structure Error where
  code : Int32
  message : String
  data : Option Json := none
  deriving Repr

namespace Error

def parseErrorCode : Int32 := -32700
def invalidRequestCode : Int32 := -32600
def methodNotFoundCode : Int32 := -32601
def invalidParamsCode : Int32 := -32602
def internalErrorCode : Int32 := -32603
def serverErrorCode : Int32 := -32000
def limitExceededCode : Int32 := -32005
def unauthorizedCode : Int32 := -32010

def parse (details : String) : Error := ⟨parseErrorCode, "Parse error: " ++ details, none⟩

def invalidRequest (details : String) : Error :=
  ⟨invalidRequestCode, "Invalid request: " ++ details, none⟩

def methodNotFound (method : String) : Error :=
  ⟨methodNotFoundCode, "Method not found: " ++ method, none⟩

def invalidParams (details : String) : Error :=
  ⟨invalidParamsCode, "Invalid params: " ++ details, none⟩

def internal (details : String) : Error :=
  ⟨internalErrorCode, "Internal error: " ++ details, none⟩

def limitExceeded (limit : String) : Error :=
  ⟨limitExceededCode, "Limit exceeded: " ++ limit, none⟩

/-- The one error of a caller who may not call; it does not say why. -/
def unauthorized : Error := ⟨unauthorizedCode, "Unauthorized: missing or invalid token", none⟩

/-- A text that is no JSON is a parse error, a value of the wrong shape means invalid parameters. -/
def ofDecodeError (e : Json.DecodeError) : Error :=
  match e with
  | .malformed .. => parse e.message
  | .mismatch .. => invalidParams e.message

def ofHexFault (f : Hex.Fault) : Error := invalidParams ("invalid hex: " ++ f.message)

def display (e : Error) : String := s!"[{Text.decimal e.code.toInt}] {e.message}"

/-- The members of an error, data only if there are any. -/
def members (e : Error) : List (String × Json) :=
  [("code", Json.ofInt e.code.toInt), ("message", .str e.message)] ++
    match e.data with
    | some d => [("data", d)]
    | none => []

/-- An error with its members in the order of its fields. -/
def toJson (e : Error) : Json := .obj e.members

/-- An error with its members in the order of their keys, as it stands inside a response. -/
def toValue (e : Error) : Json := Json.object e.members

/-- The fields of an error. Data may be missing in an object; null data are no data. -/
def fields : List (Json.Decoder.Field Error) := [
  .of "code" .required (Json.Decoder.integer "i32" (-0x8000_0000) (0x8000_0000 - 1))
    fun code e => { e with code := Int32.ofInt code },
  .of "message" .required Json.Decoder.string fun message e => { e with message },
  .of "data" .optionalInObject (Json.Decoder.optional .any) fun data e => { e with data }]

def decoder : Json.Decoder Error := Json.Decoder.record "ErrorHelper" fields ⟨0, "", none⟩

end Error

end TokenGate.Rpc
