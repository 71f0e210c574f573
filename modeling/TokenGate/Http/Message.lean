import TokenGate.Http.Headers
/-!
Requests and responses.
-/
namespace TokenGate.Http

structure Request where
  method : String
  path : String
  headers : Headers
  body : Bytes
  deriving Repr, DecidableEq

structure Response where
  status : Nat
  headers : Headers := []
  body : String := ""
  deriving Repr, DecidableEq

def jsonType : String := "application/json"

def plainType : String := "text/plain; charset=utf-8"

def contentType (type : String) : Field := ⟨"content-type", Utf8.encode type⟩

end TokenGate.Http
