import TokenGate.Http.Bearer
import TokenGate.Http.Message
import TokenGate.Metrics
import TokenGate.Rpc.Envelope
import TokenGate.Token.Validator
/-!
What both gates of the authenticated listener ask of a request, and the one response to whoever is
turned away.
-/
namespace TokenGate.Gate

/-- The claims that the header fields of a request present, if they are accepted. -/
def authenticate (v : Token.Validator) (now : Instant) (h : Http.Headers) :
    Except AuthError Token.Claims := do
  v.validate (← Http.bearerToken h) now

/-- The response to a request that is refused; it never names the reason. -/
def unauthorized : Http.Response where
  status := 401
  headers := [Http.contentType Http.jsonType, ⟨"www-authenticate", Utf8.encode "Bearer"⟩]
  body := (Rpc.failure .null .unauthorized).text

end TokenGate.Gate
