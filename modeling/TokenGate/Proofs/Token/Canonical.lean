import TokenGate.Proofs.Basic
import TokenGate.Proofs.Token.Verdict
/-!
Tokens are canonical: a token that is decoded is spelled out by what is decoded from it, and the
text that is signed and the secret leave one token that can be accepted.
-/
namespace TokenGate.Token

/-- The characters before the point that follows a number of other points. -/
def beforePoint : Nat → List Char → List Char
  | _, [] => []
  | 0, c :: cs => if c = '.' then [] else c :: beforePoint 0 cs
  | n + 1, c :: cs => c :: beforePoint (if c = '.' then n else n + 1) cs

/-- The text before the second point. -/
def signedText (token : String) : String := String.ofList (beforePoint 1 token.toList)

theorem beforePoint_zero (h : '.' ∉ cs) (rest : List Char) :
    beforePoint 0 (cs ++ '.' :: rest) = cs := by
  induction cs with
  | nil => exact if_pos rfl
  | cons c cs ih =>
    obtain ⟨hc, hcs⟩ := List.ne_and_not_mem_of_not_mem_cons h
    rw [List.cons_append, beforePoint, if_neg (Ne.symm hc), ih hcs]

theorem beforePoint_succ (h : '.' ∉ cs) (n : Nat) (rest : List Char) :
    beforePoint (n + 1) (cs ++ '.' :: rest) = cs ++ '.' :: beforePoint n rest := by
  induction cs with
  | nil => exact congrArg ('.' :: beforePoint · rest) (if_pos rfl)
  | cons c cs ih =>
    obtain ⟨hc, hcs⟩ := List.ne_and_not_mem_of_not_mem_cons h
    rw [List.cons_append, beforePoint, if_neg (Ne.symm hc), ih hcs, List.cons_append]

/-- What follows the second point does not matter. -/
theorem signedText_append (f : Form) (segment : String) :
    signedText (f.input ++ "." ++ segment) = f.input := by
  have hl : (f.input ++ "." ++ segment).toList = Base64Url.encodeChars f.header ++
      '.' :: (Base64Url.encodeChars f.claims ++ '.' :: segment.toList) := by
    simp [Form.input, Base64Url.encode]
  rw [signedText, hl, beforePoint_succ (Base64Url.point_notMem_encodeChars _),
    beforePoint_zero (Base64Url.point_notMem_encodeChars _), ofList_input, Form.input]

theorem Form.Fits.signedText {f : Form} (h : f.Fits token) : signedText token = f.input := by
  rw [h.parts, signedText_append]

theorem eq_of_decode (h : decode token = .ok d) :
    d.signingInput = signedText token ∧
      token = d.signingInput ++ "." ++ Base64Url.encode d.signature := by
  obtain ⟨f, hf, rfl⟩ := decode_eq_ok_iff.1 h
  exact ⟨hf.signedText.symm, hf.parts⟩

/-- The token that can be accepted for a text that is signed. -/
def signedToken (secret : Secret) (text : String) : String :=
  text ++ "." ++ Base64Url.encode (Hmac.code secret.bytes (Utf8.encode text))

theorem eq_signedToken (h : validate secret token now tolerance = .ok c) :
    token = signedToken secret (signedText token) := by
  cases verdict_of_validate h with
  | accepted hf ha hs =>
    rw [hf.signedText, signedToken, ← hs]
    exact hf.parts

theorem signedText_idem (h : validate secret token now tolerance = .ok c) (segment : String) :
    signedText (signedText token ++ "." ++ segment) = signedText token := by
  cases verdict_of_validate h with
  | accepted hf => rw [hf.signedText, signedText_append]

/-- A token cannot be respelled: not its signature, and not the token as a whole. -/
theorem token_canonical (secret : Secret) (token : String) :
    (∀ d, decode token = .ok d →
      token = d.signingInput ++ "." ++ Base64Url.encode d.signature ∧
      d.signingInput = signedText token ∧
      ∀ segment, Base64Url.decode? segment = some d.signature ↔
        segment = Base64Url.encode d.signature) ∧
    ∀ now tolerance c, validate secret token now tolerance = .ok c →
      token = signedToken secret (signedText token) ∧
      (∀ token' now' tolerance' c', validate secret token' now' tolerance' = .ok c' →
        signedText token' = signedText token → token' = token) ∧
      ∀ segment now' tolerance' c',
        validate secret (signedText token ++ "." ++ segment) now' tolerance' = .ok c' →
        segment = Base64Url.encode (Hmac.code secret.bytes (Utf8.encode (signedText token))) := by
  constructor
  · intro d hd
    obtain ⟨hi, ht⟩ := eq_of_decode hd
    exact ⟨ht, hi, fun segment => Base64Url.decode?_eq_some_iff⟩
  · intro now tolerance c hv
    refine ⟨eq_signedToken hv, ?_, ?_⟩
    · intro token' now' tolerance' c' hv' ht
      rw [eq_signedToken hv', ht]
      exact (eq_signedToken hv).symm
    · intro segment now' tolerance' c' hv'
      have he := eq_signedToken hv'
      rw [signedText_idem hv] at he
      exact (String.append_right_inj _).1 he

theorem token_canonical_dated :
    let secret : Secret := ⟨List.replicate 32 7, by decide⟩
    let token := "eyJhbGciOiJIUzI1NiIsInR5cCI6IkpXVCJ9.eyJpYXQiOjV9" ++
      ".pHHcwcH9YbGiCug3X5CMFvsz2QHYIs-1ux6G2hsBLg4"
    ∃ d c, decode token = .ok d ∧
      validate secret token ⟨7, 0, by decide, by decide⟩ (.ofSeconds 5) = .ok c ∧
      d.signingInput = signedText token ∧ token = signedToken secret (signedText token) := by
  intro secret token
  have hv : (validate secret token ⟨7, 0, by decide, by decide⟩ (.ofSeconds 5)).isOk = true := by
    decide +kernel
  obtain ⟨c, hc⟩ := exists_eq_ok hv
  obtain ⟨d, hd, -⟩ := bind_eq_ok.1 hc
  obtain ⟨hdecode, hvalidate⟩ := token_canonical secret token
  exact ⟨d, c, hd, hc, (hdecode d hd).2.1, (hvalidate _ _ c hc).1⟩

end TokenGate.Token
