import TokenGate.AuthError
import TokenGate.Http.Headers
import TokenGate.Text.WhiteSpace
/-!
The header field that carries a token: `Authorization: Bearer <token>`.
-/
namespace TokenGate.Http

def authorization : String := "authorization"

def scheme : List Char := "bearer ".toList

/-- The token of the first `Authorization` field. Another scheme or an empty token count as no
credential, a value that is no text is malformed. -/
def bearerToken (h : Headers) : Except AuthError String :=
  match h.get? authorization with
  | none => .error .noCredentialPresented
  | some value =>
    match valueText? value with
    | none => .error .malformedToken
    | some text =>
      let cs := text.toList
      if (cs.take scheme.length).map lowerChar ≠ scheme then .error .noCredentialPresented
      else
        match Text.strip Text.isWhiteSpace (cs.drop scheme.length) with
        | [] => .error .noCredentialPresented
        | token => .ok (String.ofList token)

/-- Puts a token in the place of every `Authorization` field. -/
def setBearer (h : Headers) (token : String) : Except HeaderError Headers :=
  let value := Utf8.encode ("Bearer " ++ token)
  if isValue value then .ok (h.set authorization value) else .error .invalidValue

end TokenGate.Http
