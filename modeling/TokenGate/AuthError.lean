/-!
Why an attempt to authenticate is refused.
-/
namespace TokenGate

inductive AuthError where
  | malformedToken
  | algorithmNotAllowed
  | badSignature
  | missingClaim
  | clockSkewExceeded
  | noCredentialPresented
  deriving Repr, DecidableEq

namespace AuthError

def all : List AuthError :=
  [malformedToken, algorithmNotAllowed, badSignature, missingClaim, clockSkewExceeded,
    noCredentialPresented]

/-- The name of a reason. -/
def name : AuthError → String
  | malformedToken => "MalformedToken"
  | algorithmNotAllowed => "AlgorithmNotAllowed"
  | badSignature => "BadSignature"
  | missingClaim => "MissingClaim"
  | clockSkewExceeded => "ClockSkewExceeded"
  | noCredentialPresented => "NoCredentialPresented"

/-- The stable label under which a reason is counted. -/
def label : AuthError → String
  | malformedToken => "malformed_token"
  | algorithmNotAllowed => "algorithm_not_allowed"
  | badSignature => "bad_signature"
  | missingClaim => "missing_claim"
  | clockSkewExceeded => "clock_skew_exceeded"
  | noCredentialPresented => "no_credential_presented"

def message : AuthError → String
  | malformedToken => "malformed token"
  | algorithmNotAllowed => "signing algorithm not allowed"
  | badSignature => "signature mismatch"
  | missingClaim => "missing iat claim"
  | clockSkewExceeded => "token issued outside clock skew tolerance"
  | noCredentialPresented => "no credential presented"

theorem mem_all (e : AuthError) : e ∈ all := by cases e <;> decide

end AuthError

end TokenGate
