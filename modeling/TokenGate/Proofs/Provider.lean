import TokenGate.Proofs.Gate.Admission
import TokenGate.Proofs.Http.Authorization
import TokenGate.Proofs.Token.Signing
import TokenGate.Provider
/-!
What providers do to header fields, and when a signed token lets in: for as long as it is fresh.
-/
namespace TokenGate

namespace Token

open Http (IsGraphic)

theorem isGraphic_of_mem_alphabet (h : c ∈ Base64Url.alphabet) : IsGraphic c := by
  have hall : Base64Url.alphabet.all (IsGraphic ·) := by decide +kernel
  exact of_decide_eq_true (List.all_eq_true.1 hall c h)

theorem isGraphic_base64 (b : Bytes) : ∀ c ∈ (Base64Url.encode b).toList, IsGraphic c := by
  intro c hc
  rw [Base64Url.encode, String.toList_ofList] at hc
  exact isGraphic_of_mem_alphabet (Base64Url.mem_alphabet_of_mem_encodeChars c hc)

theorem isGraphic_signingInput (alg : String) (claims : Claims) :
    ∀ c ∈ (signingInput alg claims).toList, IsGraphic c := by
  have hpoint : ∀ c ∈ ".".toList, IsGraphic c :=
    List.forall_mem_singleton.2 (by decide : IsGraphic '.')
  simp only [signingInput, part, String.toList_append, List.forall_mem_append]
  exact ⟨⟨isGraphic_base64 _, hpoint⟩, isGraphic_base64 _⟩

/-- A token with any signature, or with none, can be seen. -/
theorem isGraphic_signed (alg : String) (claims : Claims) (signature : Bytes) :
    ∀ c ∈ (signingInput alg claims ++ "." ++ Base64Url.encode signature).toList, IsGraphic c := by
  have hpoint : ∀ c ∈ ".".toList, IsGraphic c :=
    List.forall_mem_singleton.2 (by decide : IsGraphic '.')
  simp only [String.toList_append, List.forall_mem_append]
  exact ⟨⟨isGraphic_signingInput alg claims, hpoint⟩, isGraphic_base64 _⟩

theorem signed_ne_nil (alg : String) (claims : Claims) (signature : Bytes) :
    (signingInput alg claims ++ "." ++ Base64Url.encode signature).toList ≠ [] := by
  have hpoint : ".".toList ≠ [] := by decide
  rw [String.toList_append, String.toList_append]
  exact List.append_ne_nil_of_left_ne_nil (List.append_ne_nil_of_right_ne_nil _ hpoint) _

theorem plain_issuedAt (iat : Int64) : Json.Plain 127 (.obj (Claims.issuedAt iat).extra) :=
  .obj .nil nofun

end Token

namespace Provider

open Http (Headers)
open Token (Fresh)

/-- Providers that fail, or do no more to header fields than put tokens in. -/
inductive BearerOnly : Provider → Prop where
  | signed : BearerOnly (.signed secret offset)
  | unsigned : BearerOnly .unsigned
  | function (h : ∀ asked now fields fields', f asked now fields = .ok fields' →
      Http.Bears fields fields') : BearerOnly (.function f asked)
  | sequence (first : BearerOnly p) (rest : ∀ q ∈ ps, BearerOnly q) :
      BearerOnly (.sequence p ps position)

variable {p : Provider} {ps : List Provider} {now : Instant} {fields fields' : Headers} {t : String}

theorem bears_of_setToken (h : setToken fields t = .ok fields') : Http.Bears fields fields' := by
  rw [setToken] at h
  cases hs : Http.setBearer fields t with
  | error e =>
    rw [hs] at h
    cases h
  | ok _ =>
    rw [hs] at h
    cases h
    exact .single ⟨t, hs⟩

/-- What holds of the fields that each provider of a list makes holds of what one of them makes. -/
theorem invokeAt_ok {motive : Headers → Prop}
    (h : ∀ p ∈ ps, ∀ fields', (p.invoke now fields).1 = .ok fields' → motive fields')
    (hi : (invokeAt ps n now fields).1 = .ok fields') : motive fields' := by
  induction ps generalizing n with
  | nil => cases hi
  | cons p ps ih =>
    cases n with
    | zero =>
      simp only [invokeAt] at hi
      exact h p List.mem_cons_self fields' hi
    | succ n =>
      simp only [invokeAt] at hi
      exact ih (fun p hp => h p (List.mem_cons_of_mem _ hp)) hi

theorem BearerOnly.bears (h : BearerOnly p) (hi : (p.invoke now fields).1 = .ok fields') :
    Http.Bears fields fields' := by
  induction h generalizing fields' with
  | signed =>
    simp only [invoke] at hi
    exact bears_of_setToken hi
  | unsigned =>
    simp only [invoke] at hi
    exact bears_of_setToken hi
  | function h =>
    simp only [invoke] at hi
    exact h _ _ _ _ hi
  | @sequence p ps position first rest ihf ihr =>
    cases position with
    | zero =>
      simp only [invoke] at hi
      exact ihf hi
    | succ n =>
      simp only [invoke] at hi
      exact invokeAt_ok (fun q hq fields' hq' => ihr q hq hq') hi

/-- A provider leaves header fields with one `Authorization` field, in which the token is read. -/
def Presents (p : Provider) (now : Instant) (fields : Headers) (t : String) : Prop :=
  ∃ fields', (p.invoke now fields).1 = .ok fields' ∧
    (fields'.values Http.authorization).length = 1 ∧ Http.bearerToken fields' = .ok t

/-- A provider that puts in a token of the form in which tokens are issued presents it. -/
theorem presents_of_setToken {alg : String} {claims : Token.Claims} {signature : Bytes}
    (ht : t = Token.signingInput alg claims ++ "." ++ Base64Url.encode signature)
    (hi : (p.invoke now fields).1 = setToken fields t) : p.Presents now fields t := by
  have hg : ∀ c ∈ t.toList, Http.IsGraphic c := by
    rw [ht]
    exact Token.isGraphic_signed alg claims signature
  have hn : t.toList ≠ [] := by
    rw [ht]
    exact Token.signed_ne_nil alg claims signature
  have hs := Http.setBearer_of_graphic hg fields
  refine ⟨_, hi.trans (by rw [setToken, hs]; rfl), ?_, Http.bearerToken_setBearer hg hn hs⟩
  rw [Http.Headers.values_set]
  rfl

theorem presents_signed (secret : Secret) (offset : Int64) (now : Instant) (fields : Headers) :
    (signed secret offset).Presents now fields (Token.encode secret
      (.issuedAt (saturatingAdd (Int64.ofInt now.unixSeconds) offset))) := by
  refine presents_of_setToken (Token.encode_eq _ _) ?_
  simp only [invoke]

theorem presents_unsigned (now : Instant) (fields : Headers) :
    unsigned.Presents now fields
      (Token.encodeUnsigned (.issuedAt (Int64.ofInt now.unixSeconds))) := by
  refine presents_of_setToken (Token.encodeUnsigned_eq _) ?_
  simp only [invoke]

/-- A signed token lets in exactly if its time of issue is fresh. -/
theorem admits_signed (secret : Secret) (offset : Int64) (now : Instant) (fields : Http.Headers) :
    ∃ fields', ((signed secret offset).invoke now fields).1 = .ok fields' ∧
      ∀ t tolerance, Gate.Admits ⟨secret, tolerance⟩ t fields' ↔
        Fresh (saturatingAdd (Int64.ofInt now.unixSeconds) offset) t tolerance := by
  obtain ⟨fields', hi, -, hb⟩ := presents_signed secret offset now fields
  refine ⟨fields', hi, ?_⟩
  generalize saturatingAdd (Int64.ofInt now.unixSeconds) offset = iat at hb
  intro t tolerance
  have hval := Token.validate_encode (Token.plain_issuedAt iat) rfl secret t tolerance
  constructor
  · rintro ⟨token, claims, ht, hc⟩
    cases hb.symm.trans ht
    by_contra hf
    rw [Token.Validator.validate, hval] at hc
    simp only [Token.Claims.issuedAt, if_neg hf, reduceCtorEq] at hc
  · intro hf
    refine ⟨_, .issuedAt iat, hb, ?_⟩
    rw [Token.Validator.validate, hval]
    simp only [Token.Claims.issuedAt, if_pos hf]

end Provider

end TokenGate
