import TokenGate.Provider
/-!
Why a client cannot dial, or a call gives no result.
-/
namespace TokenGate.Client

inductive Error where
  | invalidEndpoint (reason : String)
  | dial (reason : String)
  | unauthorized
  | provider (e : ProviderError)
  | transport (reason : String)
  | rpc (code : Int32) (message : String)
  | invalidResponse (reason : String)
  | closed
  deriving Repr, DecidableEq

def Error.message : Error → String
  | .invalidEndpoint reason => "invalid endpoint: " ++ reason
  | .dial reason => "dial failed: " ++ reason
  | .unauthorized => "unauthorized"
  | .provider e => "credential provider failed: " ++ e.message
  | .transport reason => "transport error: " ++ reason
  | .rpc code message => s!"rpc error {Text.decimal code.toInt}: {message}"
  | .invalidResponse reason => "invalid response: " ++ reason
  | .closed => "connection closed"

end TokenGate.Client
