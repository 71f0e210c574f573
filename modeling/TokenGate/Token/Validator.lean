import TokenGate.Time.Instant
import TokenGate.Token.Compact
/-!
Validation of tokens. The form is checked first, then the algorithm, then the signature, and the
time of issue last: it may differ from the clock by the tolerance, and not by more.
-/
namespace TokenGate.Token

/-- The point in time that a number of seconds since the epoch denotes. -/
def issueTime? (iat : Int64) : Option Instant :=
  if h : 0 ≤ iat.toInt then
    Instant.epoch.add? (.ofSeconds iat.toInt.toNat (by have := iat.toInt_lt; omega))
  else Instant.epoch.sub? (.ofSeconds (-iat.toInt).toNat (by have := iat.le_toInt; omega))

def checkFreshness (iat : Int64) (now : Instant) (tolerance : Duration) : Except AuthError Unit :=
  match issueTime? iat with
  | none => .error .clockSkewExceeded
  | some issued =>
    if now.distance issued ≤ tolerance then .ok () else .error .clockSkewExceeded

/-- The claims of a token that is accepted at a point in time. -/
def validate (secret : Secret) (token : String) (now : Instant) (tolerance : Duration) :
    Except AuthError Claims := do
  let d ← decode token
  if d.header.alg ≠ hs256 then throw .algorithmNotAllowed
  verify secret d.signingInput d.signature
  match d.claims.iat with
  | none => throw .missingClaim
  | some iat =>
    checkFreshness iat now tolerance
    return d.claims

/-- The secret and the tolerance by which a node validates. -/
structure Validator where
  secret : Secret
  tolerance : Duration
  deriving Repr, DecidableEq

def Validator.validate (v : Validator) (token : String) (now : Instant) :
    Except AuthError Claims :=
  Token.validate v.secret token now v.tolerance

end TokenGate.Token
