import TokenGate.Proofs.Token.Signing
/-!
Which fault of a token is reported if it has several. The algorithm counts before the signature; but
claims that hold something else in the place of a time of issue count before both, although nobody
has vouched for them.
-/
namespace TokenGate.Token

open Json (Holds lastValue)

namespace Form

variable {f f' : Form} {token : String} {secret : Secret}

/-- The claims give a time of issue, or null or nothing in its place. -/
def Dated (f : Form) : Prop := ∃ iat, IsIssueTime (lastValue "iat" f.members) iat

/-- The text of a token determines the bytes of its claims. -/
theorem Outlines.claims_eq (h : f.Outlines token) (hf : f'.Fits token) : f'.claims = f.claims := by
  have ht := congrArg parts? (hf.parts.symm.trans h.parts)
  simp only [input] at ht
  rw [parts?_compact, parts?_compact] at ht
  obtain ⟨-, hc, -⟩ : _ ∧ _ ∧ _ := by simpa only [Option.some.injEq, Prod.mk.injEq] using ht
  exact encodeChars_inj hc

theorem Outlines.dated_of_fits (h : f.Outlines token) (hf : f'.Fits token) : f.Dated := by
  have hc := hf.claims
  rw [h.claims_eq hf] at hc
  refine ⟨f'.iat, ?_⟩
  rw [h.claims.unique hc]
  exact hf.iat

/-- Without a time of issue that can be read, the token is no token at all. -/
theorem Outlines.validate_of_not_dated (h : f.Outlines token) (hd : ¬ f.Dated) (secret : Secret)
    (now : Instant) (tolerance : Duration) :
    validate secret token now tolerance = .error .malformedToken :=
  validate_of_malformed fun _ hf => hd (h.dated_of_fits hf)

/-- What is reported of a token that does not pass as signed, if the algorithm counts before the
signature and both before the claims. -/
def unverified (f : Form) : AuthError :=
  if f.alg = "HS256" then .badSignature else .algorithmNotAllowed

theorem unverified_ne (f : Form) : f.unverified ≠ .malformedToken := by
  rw [unverified]
  split <;> decide

theorem Outlines.validate_of_dated (h : f.Outlines token)
    (hs : f.alg = "HS256" → ¬ f.Signed secret) (hd : f.Dated) (now : Instant)
    (tolerance : Duration) :
    validate secret token now tolerance = .error f.unverified := by
  obtain ⟨iat, hi⟩ := hd
  have ho : Outlines { f with iat } token := ⟨h.parts, h.header, h.claims, h.alg, h.typ⟩
  have hf := ho.fits hi
  rw [unverified]
  split
  · next ha => exact (Verdict.unsigned hf ha (hs ha)).validate
  · next ha => exact (Verdict.otherAlgorithm hf ha).validate

end Form

/-- A token with a wrong algorithm or signature is refused for that exactly if its claims give a
time of issue, or null or nothing in its place, whatever else they hold. Otherwise it is refused as
malformed. -/
theorem unverified_reported_iff {f : Form} (h : f.Outlines token)
    (hs : f.alg = "HS256" → ¬ f.Signed secret) (now : Instant) (tolerance : Duration) :
    (validate secret token now tolerance = .error f.unverified ↔ f.Dated) ∧
      (validate secret token now tolerance = .error .malformedToken ↔ ¬ f.Dated) := by
  by_cases hd : f.Dated
  · have hv := h.validate_of_dated hs hd now tolerance
    refine ⟨iff_of_true hv hd, iff_of_false ?_ (not_not_intro hd)⟩
    rw [hv]
    intro he
    exact f.unverified_ne (Except.error.inj he)
  · have hv := h.validate_of_not_dated hd secret now tolerance
    refine ⟨iff_of_false ?_ hd, iff_of_true hv hd⟩
    rw [hv]
    intro he
    exact f.unverified_ne (Except.error.inj he).symm

/-- Claims that say in words when they were issued. -/
def wordy : Claims := ⟨none, [("iat", .str "soon")]⟩

theorem plain_wordy : Json.Plain 127 (.obj wordy.extra) :=
  .obj (List.pairwise_singleton _ _) (List.forall_mem_singleton.2 .str)

theorem not_dated_wordy (alg : String) (iat : Option Int64) (signature : Bytes) :
    ¬ (issued alg wordy iat signature).Dated := by
  rintro ⟨none | iat, hi⟩
  · rcases hi with hi | hi <;> cases hi
  · obtain ⟨_, hj⟩ := ofInt_toInt iat
    have hi : some (Json.str "soon") = some (Json.ofInt iat.toInt) := hi
    rw [hj] at hi
    cases hi

theorem not_signed_of_empty (alg : String) (c : Claims) (iat : Option Int64) (secret : Secret) :
    ¬ (issued alg c iat []).Signed secret := by
  intro hs
  have hl := congrArg List.length hs
  rw [Hmac.length_code] at hl
  cases hl

theorem unverified_reported_iff_wordy :
    let secret : Secret := ⟨List.replicate 32 7, by decide⟩
    let now : Instant := ⟨7, 0, by decide, by decide⟩
    let f := issued hs256 wordy none []
    let token := signingInput hs256 wordy ++ "." ++ Base64Url.encode []
    f.Outlines token ∧ (f.alg = "HS256" → ¬ f.Signed secret) ∧ ¬ f.Dated ∧
      validate secret token now (.ofSeconds 5) = .error .malformedToken := by
  intro secret now f token
  have ho := issued_outlines plain_wordy hs256 none []
  have hs (_ : f.alg = "HS256") := not_signed_of_empty hs256 wordy none secret
  have hd := not_dated_wordy hs256 none []
  exact ⟨ho, hs, hd, (unverified_reported_iff ho hs now (.ofSeconds 5)).2.2 hd⟩

/-- Neither the wrong algorithm of the one token nor the missing signature of the other is what is
reported of it. -/
theorem unverified_malformed :
    let secret : Secret := ⟨List.replicate 32 7, by decide⟩
    let now : Instant := ⟨7, 0, by decide, by decide⟩
    let unsigned := "eyJhbGciOiJub25lIiwidHlwIjoiSldUIn0.eyJpYXQiOiJzb29uIn0."
    let signed := "eyJhbGciOiJIUzI1NiIsInR5cCI6IkpXVCJ9.eyJpYXQiOiJzb29uIn0."
    (∃ f : Form, f.Outlines unsigned ∧ f.alg ≠ "HS256" ∧
      validate secret unsigned now (.ofSeconds 5) ≠ .error .algorithmNotAllowed) ∧
    ∃ f : Form, f.Outlines signed ∧ f.alg = "HS256" ∧ ¬ f.Signed secret ∧
      validate secret signed now (.ofSeconds 5) ≠ .error .badSignature := by
  intro secret now unsigned signed
  have hu : unsigned = signingInput unsignedAlgorithm wordy ++ "." ++ Base64Url.encode [] := by
    decide +kernel
  have hs : signed = signingInput hs256 wordy ++ "." ++ Base64Url.encode [] := by decide +kernel
  have ho := issued_outlines plain_wordy unsignedAlgorithm none []
  have ho' := issued_outlines plain_wordy hs256 none []
  rw [← hu] at ho
  rw [← hs] at ho'
  refine ⟨⟨_, ho, by decide, ?_⟩, _, ho', rfl, not_signed_of_empty hs256 wordy none secret, ?_⟩
  · rw [ho.validate_of_not_dated (not_dated_wordy _ _ _)]
    exact nofun
  · rw [ho'.validate_of_not_dated (not_dated_wordy _ _ _)]
    exact nofun

end TokenGate.Token
