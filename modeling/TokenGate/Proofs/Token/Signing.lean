import TokenGate.Proofs.Json.RoundTrip
import TokenGate.Proofs.Token.Verdict
/-!
Signing and validating agree: what is signed is decoded to the same claims, and is accepted as long
as it is fresh. Another member with the name of the time of issue takes its place.
-/
namespace TokenGate.Token

open Json (Plain lastValue lastValue_cons)

/-- The members that claims come to. The time of issue is one of them, unless there is another
member of its name. -/
def Claims.object (c : Claims) : List (String × Json) :=
  match c.iat with
  | some iat =>
    if "iat" ∈ c.extra.map Prod.fst then c.extra else ("iat", Json.ofInt iat.toInt) :: c.extra
  | none => c.extra

/-- The members of claims in the order in which they are written. -/
def Claims.written (c : Claims) : List (String × Json) :=
  match c.iat with
  | some iat => ("iat", Json.ofInt iat.toInt) :: c.extra
  | none => c.extra

variable {c : Claims}

theorem Claims.toJson_eq (c : Claims) : c.toJson = .obj c.written := by
  obtain ⟨iat, extra⟩ := c
  cases iat <;> rfl

theorem Claims.plain_written (hp : Plain 127 (.obj c.extra)) : ∀ m ∈ c.written, Plain 126 m.2 := by
  obtain ⟨iat, extra⟩ := c
  cases hp with
  | obj ha he =>
    cases iat with
    | none => exact he
    | some iat =>
      obtain ⟨hi, hj⟩ := ofInt_toInt iat
      exact List.forall_mem_cons.2 ⟨hj ▸ .int, he⟩

theorem Claims.lastValue_written (ha : Json.Ascending c.extra) :
    lastValue "iat" c.written = c.object.lookup "iat" := by
  obtain ⟨iat, extra⟩ := c
  cases iat with
  | none => exact ha.lastValue "iat"
  | some iat =>
    simp only [written, object]
    rw [Json.lastValue_cons, ha.lastValue, if_pos rfl]
    split
    · next h =>
      cases hl : extra.lookup "iat" with
      | none => exact (lookup_eq_none_iff.1 hl h).elim
      | some j => rfl
    · next h =>
      rw [lookup_eq_none_iff.2 h, lookup_cons, if_pos rfl]
      rfl

theorem Claims.carriesRest_written (ha : Json.Ascending c.extra) :
    CarriesRest (c.object.filter (·.1 ≠ "iat")) c.written := by
  have ho : c.object.filter (·.1 ≠ "iat") = c.extra.filter (·.1 ≠ "iat") := by
    unfold object
    split
    · split
      · rfl
      · exact List.filter_cons_of_neg (by simp)
    · rfl
  rw [ho]
  refine ⟨ha.filter _, ?_⟩
  intro key
  rw [lookup_filter_ne]
  split
  · rfl
  · next hk =>
    rw [← ha.lastValue]
    unfold written
    split
    · rw [Json.lastValue_cons, if_neg hk, Option.or_none]
    · rfl

/-- The form of a token that is issued. -/
def issued (alg : String) (c : Claims) (iat : Option Int64) (signature : Bytes) : Form where
  header := Utf8.encode (Header.issue alg).toJson.text
  claims := Utf8.encode c.toJson.text
  signature := signature
  headerMembers := [("alg", .str alg), ("typ", .str "JWT")]
  members := c.written
  alg := alg
  typ := some "JWT"
  iat := iat

theorem issued_input (alg : String) (c : Claims) (iat : Option Int64) (signature : Bytes) :
    (issued alg c iat signature).input = signingInput alg c := by
  simp only [Form.input, issued, signingInput, part]

theorem holds_header (alg : String) :
    Json.Holds (Utf8.encode (Header.issue alg).toJson.text)
      [("alg", .str alg), ("typ", .str "JWT")] := by
  have hp : ∀ m ∈ [("alg", Json.str alg), ("typ", .str "JWT")], Plain 126 m.2 :=
    List.forall_mem_cons.2 ⟨.str, List.forall_mem_singleton.2 .str⟩
  exact Json.holds_text hp

theorem holds_claims (hp : Plain 127 (.obj c.extra)) :
    Json.Holds (Utf8.encode c.toJson.text) c.written := by
  rw [c.toJson_eq]
  exact Json.holds_text (Claims.plain_written hp)

theorem ascending_extra (hp : Plain 127 (.obj c.extra)) : Json.Ascending c.extra := by
  cases hp with
  | obj ha => exact ha

theorem issued_outlines (hp : Plain 127 (.obj c.extra)) (alg : String) (iat : Option Int64)
    (signature : Bytes) :
    (issued alg c iat signature).Outlines
      (signingInput alg c ++ "." ++ Base64Url.encode signature) := by
  refine ⟨?_, ?_, ?_, ?_, ?_⟩
  · rw [issued_input]
    rfl
  · simp only [issued]
    exact holds_header alg
  · simp only [issued]
    exact holds_claims hp
  · simp only [issued, lastValue_cons]
    rfl
  · simp only [issued, lastValue_cons]
    rfl

theorem issued_fits (hp : Plain 127 (.obj c.extra)) (alg : String)
    (hi : IsIssueTime (c.object.lookup "iat") iat) (signature : Bytes) :
    (issued alg c iat signature).Fits
      (signingInput alg c ++ "." ++ Base64Url.encode signature) := by
  apply (issued_outlines hp alg iat signature).fits
  rw [issued, Claims.lastValue_written (ascending_extra hp)]
  exact hi

/-- Any form of a token that is issued holds the header and the claims that it was issued for. -/
theorem bytes_of_fits {f : Form}
    (hf : f.Fits (signingInput alg c ++ "." ++ Base64Url.encode signature)) :
    f.header = Utf8.encode (Header.issue alg).toJson.text ∧
      f.claims = Utf8.encode c.toJson.text := by
  have ht := congrArg parts? hf.parts
  simp only [signingInput, part, Form.input] at ht
  rw [parts?_compact, parts?_compact] at ht
  obtain ⟨hh, hc, -⟩ : _ ∧ _ ∧ _ := by simpa only [Option.some.injEq, Prod.mk.injEq] using ht
  exact ⟨(encodeChars_inj hh).symm, (encodeChars_inj hc).symm⟩

theorem alg_of_fits {f : Form}
    (hf : f.Fits (signingInput alg c ++ "." ++ Base64Url.encode signature)) : f.alg = alg := by
  have hh := hf.header
  rw [(bytes_of_fits hf).1] at hh
  have ha := hf.alg
  rw [hh.unique (holds_header alg)] at ha
  exact (Json.str.inj (Option.some.inj ha)).symm

theorem isIssueTime_of_fits {f : Form} (hp : Plain 127 (.obj c.extra))
    (hf : f.Fits (signingInput alg c ++ "." ++ Base64Url.encode signature)) :
    IsIssueTime (c.object.lookup "iat") f.iat := by
  have hc := hf.claims
  rw [(bytes_of_fits hf).2] at hc
  rw [← Claims.lastValue_written (ascending_extra hp), (holds_claims hp).unique hc]
  exact hf.iat

theorem decode_of_no_issueTime (hp : Plain 127 (.obj c.extra))
    (hi : ∀ iat, ¬ IsIssueTime (c.object.lookup "iat") iat) (alg : String) (signature : Bytes) :
    decode (signingInput alg c ++ "." ++ Base64Url.encode signature) = .error .malformedToken :=
  decode_eq_error_iff.2 ⟨rfl, fun _ hf => hi _ (isIssueTime_of_fits hp hf)⟩

theorem decode_of_issueTime (hp : Plain 127 (.obj c.extra)) (alg : String)
    (hi : IsIssueTime (c.object.lookup "iat") iat) (signature : Bytes) :
    decode (signingInput alg c ++ "." ++ Base64Url.encode signature) = .ok
      ⟨⟨alg, some "JWT"⟩, ⟨iat, c.object.filter (·.1 ≠ "iat")⟩, signingInput alg c, signature⟩ := by
  refine decode_eq_ok_iff.2 ⟨_, issued_fits hp alg hi signature, ?_⟩
  have hx := Form.carriesRest_iff (f := issued alg c iat signature).1
    (Claims.carriesRest_written (ascending_extra hp))
  rw [hx, Form.decoded, issued_input]
  rfl

theorem encode_eq (secret : Secret) (c : Claims) :
    encode secret c = signingInput hs256 c ++ "." ++
      Base64Url.encode (sign secret (signingInput hs256 c)) := rfl

theorem encodeUnsigned_eq (c : Claims) :
    encodeUnsigned c = signingInput unsignedAlgorithm c ++ "." ++ Base64Url.encode [] := by
  rw [encodeUnsigned]
  simp [Base64Url.encode, Base64Url.encodeChars]

theorem point_notMem_encode (b : Bytes) : '.' ∉ (Base64Url.encode b).toList := by
  rw [Base64Url.encode, String.toList_ofList]
  exact Base64Url.point_notMem_encodeChars b

theorem Claims.object_of_no_other (h : c.extra.lookup "iat" = none) :
    IsIssueTime (c.object.lookup "iat") c.iat ∧ c.object.filter (·.1 ≠ "iat") = c.extra := by
  have hm := lookup_eq_none_iff.1 h
  have hf : c.extra.filter (·.1 ≠ "iat") = c.extra := by
    rw [List.filter_eq_self]
    intro m hmem
    simp only [ne_eq, decide_eq_true_eq]
    rintro he
    exact hm (List.mem_map.2 ⟨m, hmem, he⟩)
  obtain ⟨iat, extra⟩ := c
  cases iat with
  | none => exact ⟨.inl h, hf⟩
  | some iat =>
    simp only [object, if_neg hm]
    exact ⟨rfl, (List.filter_cons_of_neg (by simp)).trans hf⟩

theorem validate_encode (hp : Plain 127 (.obj c.extra)) (h : c.extra.lookup "iat" = none)
    (secret : Secret) (now : Instant) (tolerance : Duration) :
    validate secret (encode secret c) now tolerance =
      match c.iat with
      | none => .error .missingClaim
      | some iat => if Fresh iat now tolerance then .ok c else .error .clockSkewExceeded := by
  obtain ⟨hi, hx⟩ := Claims.object_of_no_other h
  have hf := issued_fits hp hs256 hi (sign secret (signingInput hs256 c))
  have hs : (issued hs256 c c.iat (sign secret (signingInput hs256 c))).Signed secret := by
    rw [Form.Signed, issued_input]
    rfl
  split
  · next hn => exact (Verdict.undated hf rfl hs hn).validate
  · next iat hn =>
    split
    · next hfresh =>
      have hr := Claims.carriesRest_written (ascending_extra hp)
      rw [hx] at hr
      exact (Verdict.accepted hf rfl hs hn hfresh hn hr).validate
    · next hfresh => exact (Verdict.stale hf rfl hs hn hfresh).validate

/-- A signature that another secret has made is not accepted, unless it is the same. -/
theorem validate_of_other_signature (hp : Plain 127 (.obj c.extra))
    (h : c.extra.lookup "iat" = none) (hs : signature ≠ sign secret (signingInput hs256 c))
    (now : Instant) (tolerance : Duration) :
    validate secret (signingInput hs256 c ++ "." ++ Base64Url.encode signature) now tolerance =
      .error .badSignature := by
  have hf := issued_fits hp hs256 (Claims.object_of_no_other h).1 signature
  have hn : ¬ (issued hs256 c c.iat signature).Signed secret := by
    rw [Form.Signed, issued_input]
    exact hs
  exact (Verdict.unsigned hf rfl hn).validate

theorem validate_encodeUnsigned (hp : Plain 127 (.obj c.extra)) (h : c.extra.lookup "iat" = none)
    (secret : Secret) (now : Instant) (tolerance : Duration) :
    validate secret (encodeUnsigned c) now tolerance = .error .algorithmNotAllowed := by
  rw [encodeUnsigned_eq]
  have hf := issued_fits hp unsignedAlgorithm (Claims.object_of_no_other h).1 []
  have ha : unsignedAlgorithm ≠ "HS256" := by decide
  exact (Verdict.otherAlgorithm hf ha).validate

theorem validate_encodeUnsigned_ne_ok (secret : Secret) (c : Claims) (now : Instant)
    (tolerance : Duration) (accepted : Claims) :
    validate secret (encodeUnsigned c) now tolerance ≠ .ok accepted := by
  intro hv
  rw [encodeUnsigned_eq] at hv
  cases verdict_of_validate hv with
  | accepted hf ha =>
    rw [alg_of_fits hf] at ha
    exact absurd ha (by decide)

theorem decode_encode_of_issueTime (hp : Plain 127 (.obj c.extra))
    (hi : IsIssueTime (c.object.lookup "iat") iat) (secret : Secret) :
    ∃ d, decode (encode secret c) = .ok d ∧ d.header = ⟨"HS256", some "JWT"⟩ ∧
      d.claims = ⟨iat, c.object.filter (·.1 ≠ "iat")⟩ ∧
      (∃ segment, encode secret c = d.signingInput ++ "." ++ segment ∧ '.' ∉ segment.toList) ∧
      verify secret d.signingInput d.signature = .ok () :=
  ⟨_, decode_of_issueTime hp hs256 hi _, rfl, rfl, ⟨_, rfl, point_notMem_encode _⟩, if_pos rfl⟩

/-- What is signed is decoded to the claims that it was signed for, unless their time of issue is
none, and it is accepted as long as it is fresh. Without a signature it is never accepted. -/
theorem encode_decode_validate (secret : Secret) (c : Claims) (h : Plain 127 (.obj c.extra)) :
    ((∀ iat, ¬ IsIssueTime (c.object.lookup "iat") iat) →
      decode (encode secret c) = .error .malformedToken ∧
        decode (encodeUnsigned c) = .error .malformedToken) ∧
    (∀ iat, IsIssueTime (c.object.lookup "iat") iat →
      (∃ d, decode (encode secret c) = .ok d ∧ d.header = ⟨"HS256", some "JWT"⟩ ∧
        d.claims = ⟨iat, c.object.filter (·.1 ≠ "iat")⟩ ∧
        (∃ segment, encode secret c = d.signingInput ++ "." ++ segment ∧ '.' ∉ segment.toList) ∧
        verify secret d.signingInput d.signature = .ok ()) ∧
      ∃ d, decode (encodeUnsigned c) = .ok d ∧ d.header = ⟨"none", some "JWT"⟩ ∧
        d.claims = ⟨iat, c.object.filter (·.1 ≠ "iat")⟩ ∧ d.signature = []) ∧
    (c.extra.lookup "iat" = none →
      (∃ d, decode (encode secret c) = .ok d ∧ d.claims = c) ∧
      ∀ now tolerance, validate secret (encode secret c) now tolerance =
        match c.iat with
        | none => .error .missingClaim
        | some iat => if Fresh iat now tolerance then .ok c else .error .clockSkewExceeded) ∧
    ∀ secret' now tolerance c', validate secret' (encodeUnsigned c) now tolerance ≠ .ok c' := by
  refine ⟨?_, ?_, ?_, ?_⟩
  · intro hi
    rw [encode_eq, encodeUnsigned_eq]
    exact ⟨decode_of_no_issueTime h hi hs256 _, decode_of_no_issueTime h hi unsignedAlgorithm []⟩
  · intro iat hi
    have hu := decode_of_issueTime h unsignedAlgorithm hi []
    rw [← encodeUnsigned_eq] at hu
    exact ⟨decode_encode_of_issueTime h hi secret, _, hu, rfl, rfl, rfl⟩
  · intro hn
    obtain ⟨hi, hx⟩ := Claims.object_of_no_other hn
    have hd := decode_of_issueTime h hs256 hi (sign secret (signingInput hs256 c))
    rw [← encode_eq, hx] at hd
    exact ⟨⟨_, hd, rfl⟩, validate_encode h hn secret⟩
  · intro secret' now tolerance c'
    exact validate_encodeUnsigned_ne_ok secret' c now tolerance c'

theorem encode_decode_validate_dated :
    Plain 127 (.obj [("id", .str "a")]) ∧
      validate ⟨List.replicate 32 7, by decide⟩
        (encode ⟨List.replicate 32 7, by decide⟩ ⟨some 5, [("id", .str "a")]⟩)
        ⟨7, 0, by decide, by decide⟩ (.ofSeconds 5) = .ok ⟨some 5, [("id", .str "a")]⟩ := by
  have hp : Plain 127 (.obj [("id", .str "a")]) :=
    .obj (by simp [Json.Ascending]) (List.forall_mem_singleton.2 .str)
  refine ⟨hp, ?_⟩
  obtain ⟨-, -, hv, -⟩ :=
    encode_decode_validate ⟨List.replicate 32 7, by decide⟩ ⟨some 5, [("id", .str "a")]⟩ hp
  rw [(hv rfl).2]
  exact if_pos (by decide)

end TokenGate.Token
