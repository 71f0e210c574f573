import TokenGate.Proofs.Token.Form
import TokenGate.Proofs.Token.Freshness
/-!
The verdict on a token, as rules about its form: which tokens are accepted, with which claims, and
for which reason any other token is refused.
-/
namespace TokenGate.Token

open Json (Ascending lastValue lookup_sortMembers)

/-- The signature that a form must have. -/
def Form.Signed (f : Form) (secret : Secret) : Prop :=
  f.signature = Hmac.code secret.bytes (Utf8.encode f.input)

/-- All members that are written but the time of issue, each with the value that is written last. -/
structure CarriesRest (extra written : List (String × Json)) : Prop where
  ascending : Ascending extra
  lookup : ∀ key, extra.lookup key = if key = "iat" then none else lastValue key written

/-- What becomes of a token. Of several things that are wrong with it, the first one counts. -/
inductive Verdict (secret : Secret) (token : String) (now : Instant) (tolerance : Duration) :
    Except AuthError Claims → Prop where
  | malformed (h : ∀ f : Form, ¬ f.Fits token) :
      Verdict secret token now tolerance (.error .malformedToken)
  | otherAlgorithm {f : Form} (hf : f.Fits token) (ha : f.alg ≠ "HS256") :
      Verdict secret token now tolerance (.error .algorithmNotAllowed)
  | unsigned {f : Form} (hf : f.Fits token) (ha : f.alg = "HS256") (hs : ¬ f.Signed secret) :
      Verdict secret token now tolerance (.error .badSignature)
  | undated {f : Form} (hf : f.Fits token) (ha : f.alg = "HS256") (hs : f.Signed secret)
      (hi : f.iat = none) :
      Verdict secret token now tolerance (.error .missingClaim)
  | stale {f : Form} (hf : f.Fits token) (ha : f.alg = "HS256") (hs : f.Signed secret)
      (hi : f.iat = some iat) (hn : ¬ Fresh iat now tolerance) :
      Verdict secret token now tolerance (.error .clockSkewExceeded)
  | accepted {f : Form} (hf : f.Fits token) (ha : f.alg = "HS256") (hs : f.Signed secret)
      (hi : f.iat = some iat) (hn : Fresh iat now tolerance)
      (hc : c.iat = some iat) (hx : CarriesRest c.extra f.members) :
      Verdict secret token now tolerance (.ok c)

theorem Form.carriesRest_iff {f : Form} {ms : List (String × Json)} :
    CarriesRest ms f.members ↔ ms = f.extra := by
  have hx : CarriesRest f.extra f.members := by
    refine ⟨(Json.ascending_sortMembers f.members).filter _, ?_⟩
    intro key
    rw [Form.extra, lookup_filter_ne, lookup_sortMembers]
  constructor
  · intro h
    apply h.ascending.ext hx.ascending
    intro key
    rw [h.lookup, hx.lookup]
  · rintro rfl
    exact hx

theorem validate_of_malformed (h : ∀ f : Form, ¬ f.Fits token) :
    validate secret token now tolerance = .error .malformedToken := by
  rw [validate, decode_eq_error_iff.2 ⟨rfl, h⟩]
  rfl

theorem validate_of_algorithm {f : Form} (hf : f.Fits token) (ha : f.alg ≠ "HS256") :
    validate secret token now tolerance = .error .algorithmNotAllowed := by
  rw [validate, decode_eq_ok_iff.2 ⟨f, hf, rfl⟩]
  exact if_pos ha

/-- From the algorithm on. -/
theorem validate_of_hs256 {f : Form} (hf : f.Fits token) (ha : f.alg = "HS256") :
    validate secret token now tolerance = (do
      verify secret f.input f.signature
      match f.iat with
      | none => throw .missingClaim
      | some iat =>
        checkFreshness iat now tolerance
        return f.decoded.claims) := by
  rw [validate, decode_eq_ok_iff.2 ⟨f, hf, rfl⟩]
  exact if_neg (not_not_intro ha)

theorem verify_of_signed {f : Form} (h : f.Signed secret) :
    verify secret f.input f.signature = .ok () := if_pos h

theorem verify_of_not_signed {f : Form} (h : ¬ f.Signed secret) :
    verify secret f.input f.signature = .error .badSignature := if_neg h

theorem Verdict.validate (h : Verdict secret token now tolerance r) :
    validate secret token now tolerance = r := by
  cases h with
  | malformed h => exact validate_of_malformed h
  | otherAlgorithm hf ha => exact validate_of_algorithm hf ha
  | unsigned hf ha hs =>
    rw [validate_of_hs256 hf ha, verify_of_not_signed hs]
    rfl
  | undated hf ha hs hi =>
    rw [validate_of_hs256 hf ha, verify_of_signed hs, hi]
    rfl
  | stale hf ha hs hi hn =>
    rw [validate_of_hs256 hf ha, verify_of_signed hs, hi]
    simp only [checkFreshness_eq, if_neg hn]
    rfl
  | @accepted iat c f hf ha hs hi hn hc hx =>
    have hd : f.decoded.claims = c := by
      simp only [Form.decoded, hi, ← hc, ← Form.carriesRest_iff.1 hx]
    rw [validate_of_hs256 hf ha, verify_of_signed hs, hi]
    simp only [checkFreshness_eq, if_pos hn, hd]
    rfl

theorem exists_verdict (secret : Secret) (token : String) (now : Instant) (tolerance : Duration) :
    ∃ r, Verdict secret token now tolerance r := by
  by_cases hform : ∃ f : Form, f.Fits token
  · obtain ⟨f, hf⟩ := hform
    by_cases ha : f.alg = "HS256"
    · by_cases hs : f.Signed secret
      · cases hi : f.iat with
        | none => exact ⟨_, .undated hf ha hs hi⟩
        | some iat =>
          by_cases hn : Fresh iat now tolerance
          · exact ⟨.ok f.decoded.claims, .accepted hf ha hs hi hn hi (Form.carriesRest_iff.2 rfl)⟩
          · exact ⟨_, .stale hf ha hs hi hn⟩
      · exact ⟨_, .unsigned hf ha hs⟩
    · exact ⟨_, .otherAlgorithm hf ha⟩
  · exact ⟨_, .malformed (not_exists.1 hform)⟩

theorem verdict_of_validate (h : validate secret token now tolerance = r) :
    Verdict secret token now tolerance r := by
  obtain ⟨r', hr⟩ := exists_verdict secret token now tolerance
  rw [← h, hr.validate]
  exact hr

/-- A token gets the verdict that the rules give it, and no other. -/
theorem validate_eq_iff_verdict (secret : Secret) (token : String) (now : Instant)
    (tolerance : Duration) (r : Except AuthError Claims) :
    validate secret token now tolerance = r ↔ Verdict secret token now tolerance r :=
  ⟨verdict_of_validate, Verdict.validate⟩

end TokenGate.Token
