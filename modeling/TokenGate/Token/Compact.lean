import TokenGate.AuthError
import TokenGate.Digest.Hmac
import TokenGate.Encoding.Base64Url
import TokenGate.Json.Printer
import TokenGate.Json.Reader
import TokenGate.Secret
import TokenGate.Token.Claims
/-!
Tokens in compact form: header, claims and signature, each in Base64, divided by points. What is
signed is the text before the second point.
-/
namespace TokenGate.Token

/-- A token of the right form, of which the signature has not been checked. -/
structure Decoded where
  header : Header
  claims : Claims
  signingInput : String
  signature : Bytes
  deriving Repr

/-- The three parts that points divide a text into. -/
def parts? (token : String) : Option (List Char × List Char × List Char) :=
  match token.toList.splitOn '.' with
  | [h, c, s] => some (h, c, s)
  | _ => none

/-- The members of the object that a part holds. -/
def members? (part : List Char) : Option (List (String × Json)) := do
  match ← Json.ofBytes? (← Base64Url.decodeChars? part) with
  | .obj members => some members
  | _ => none

def decode? (token : String) : Option Decoded := do
  let (h, c, s) ← parts? token
  let header ← Header.ofMembers? (← members? h)
  let claims ← Claims.ofMembers? (← members? c)
  let signature ← Base64Url.decodeChars? s
  return ⟨header, claims, String.ofList (h ++ '.' :: c), signature⟩

def decode (token : String) : Except AuthError Decoded :=
  match decode? token with
  | some d => .ok d
  | none => .error .malformedToken

def sign (secret : Secret) (signingInput : String) : Bytes :=
  Hmac.code secret.bytes (Utf8.encode signingInput)

def verify (secret : Secret) (signingInput : String) (signature : Bytes) : Except AuthError Unit :=
  if signature = sign secret signingInput then .ok () else .error .badSignature

def part (j : Json) : String := Base64Url.encode (Utf8.encode j.text)

def signingInput (alg : String) (claims : Claims) : String :=
  part (Header.issue alg).toJson ++ "." ++ part claims.toJson

/-- A signed token. -/
def encode (secret : Secret) (claims : Claims) : String :=
  let input := signingInput hs256 claims
  input ++ "." ++ Base64Url.encode (sign secret input)

/-- A token with an empty signature. -/
def encodeUnsigned (claims : Claims) : String := signingInput unsignedAlgorithm claims ++ "."

end TokenGate.Token
