import TokenGate.Proofs.Http.Bearer
import TokenGate.Proofs.Text.WhiteSpace
/-!
A token that is put into its header field and read again. The field takes more bytes than are read
as text, and blanks around a token are dropped; otherwise what has been put in comes out.
-/
namespace TokenGate.Http

open Text (Stripped)

/-- Bytes that no header field may hold. -/
def IsControl (b : UInt8) : Prop := b = 0x7F ∨ b < 0x20 ∧ b ≠ 9

/-- What may stand around a token. -/
def isBlank (c : Char) : Bool := c = ' ' || c = '\t'

/-- Characters of ASCII that can be seen. -/
def IsGraphic (c : Char) : Prop := 0x21 ≤ c.toNat ∧ c.toNat < 0x7F

instance : DecidablePred IsGraphic := fun _ => inferInstanceAs (Decidable (_ ∧ _))

variable {fields : Headers} {token s rest : String} {cs core : List Char} {c : Char} {b : UInt8}

theorem isValueByte_iff : isValueByte b ↔ ¬ IsControl b := by
  simp only [isValueByte, IsControl, Bool.or_eq_true, Bool.and_eq_true, decide_eq_true_eq, not_or,
    not_and, not_not]
  constructor
  · rintro (⟨hl, hn⟩ | rfl)
    · exact ⟨hn, fun hb => absurd hl (UInt8.not_le.2 hb)⟩
    · exact ⟨by decide, fun _ => rfl⟩
  · rintro ⟨hn, hb⟩
    by_cases hl : b < 0x20
    · exact .inr (hb hl)
    · exact .inl ⟨UInt8.not_lt.1 hl, hn⟩

theorem isValue_bearer (token : String) :
    isValue (Utf8.encode ("Bearer " ++ token)) ↔ ∀ b ∈ Utf8.encode token, ¬ IsControl b := by
  have hs : ∀ b ∈ Utf8.encode "Bearer ", ¬ IsControl b := by
    intro b hb
    rw [← isValueByte_iff]
    exact List.all_eq_true.1 (by decide +kernel : (Utf8.encode "Bearer ").all isValueByte) b hb
  simp only [isValue, List.all_eq_true, isValueByte_iff, Utf8.encode_append,
    List.forall_mem_append]
  exact and_iff_right hs

theorem setBearer_of_control (h : ∃ b ∈ Utf8.encode token, IsControl b) (fields : Headers) :
    setBearer fields token = .error .invalidValue := by
  refine if_neg fun hv => ?_
  obtain ⟨b, hb, hc⟩ := h
  exact (isValue_bearer token).1 hv b hb hc

theorem setBearer_of_no_control (h : ∀ b ∈ Utf8.encode token, ¬ IsControl b) (fields : Headers) :
    setBearer fields token =
      .ok (fields.set authorization (Utf8.encode ("Bearer " ++ token))) :=
  if_pos ((isValue_bearer token).2 h)

/-- Of the characters of a header field that is text, only blanks are white space. -/
theorem isWhiteSpace_eq_isBlank (h : c.toNat = 9 ∨ 0x20 ≤ c.toNat ∧ c.toNat ≤ 0x7E) :
    Text.isWhiteSpace c = isBlank c := by
  have hs : c = ' ' ↔ c.toNat = 0x20 := Char.toNat_inj.symm
  have ht : c = '\t' ↔ c.toNat = 9 := Char.toNat_inj.symm
  rw [Bool.eq_iff_iff]
  simp only [isBlank, Text.isWhiteSpace, Bool.or_eq_true, Bool.and_eq_true, decide_eq_true_eq,
    beq_iff_eq, hs, ht]
  omega

theorem toNat_of_isTextByte (h : ∀ b ∈ Utf8.encode (String.ofList cs), isTextByte b) :
    ∀ c ∈ cs, c.toNat = 9 ∨ 0x20 ≤ c.toNat ∧ c.toNat ≤ 0x7E := by
  have ha := toNat_lt_of_isTextByte h
  rw [Utf8.encode_ofList ha, List.forall_mem_map] at h
  intro c hc
  have hn : (UInt8.ofNat c.toNat).toNat = c.toNat :=
    UInt8.toNat_ofNat_of_lt (Nat.lt_trans (ha c hc) (by decide))
  have hb := isTextByte_iff.1 (h c hc)
  rwa [← UInt8.toNat_inj, UInt8.le_iff_toNat_le, UInt8.le_iff_toNat_le, hn] at hb

/-- A value that holds bytes which are no text is malformed. -/
theorem bearerToken_of_not_text (hv : fields.get? authorization = some value)
    (hb : ¬ ∀ b ∈ value, isTextByte b) : bearerToken fields = .error .malformedToken := by
  rw [← List.all_eq_true] at hb
  simp only [bearerToken, hv, valueText?, if_neg hb]

/-- What is read from a value that is text and begins with the scheme. -/
theorem bearerToken_of_scheme
    (hv : fields.get? authorization = some (Utf8.encode (s ++ rest)))
    (ht : ∀ b ∈ Utf8.encode (s ++ rest), isTextByte b) (hs : lower s = "bearer ")
    (hc : Stripped isBlank rest.toList core) :
    bearerToken fields =
      if core = [] then .error .noCredentialPresented else .ok (String.ofList core) := by
  have hl : s.toList.map lowerChar = scheme := by
    rw [lower, ← String.toList_inj, String.toList_ofList] at hs
    exact hs
  have hlen : s.toList.length = scheme.length := by rw [← hl, List.length_map]
  have hcs : (s ++ rest).toList = s.toList ++ rest.toList := String.toList_append
  have htake : ((s ++ rest).toList.take scheme.length).map lowerChar = scheme := by
    rw [hcs, List.take_left' hlen, hl]
  have hdrop : (s ++ rest).toList.drop scheme.length = rest.toList := by
    rw [hcs, List.drop_left' hlen]
  rw [← (s ++ rest).ofList_toList] at ht
  have hstrip : Text.strip Text.isWhiteSpace rest.toList = core := by
    refine (hc.congr fun c hmem => ?_).strip_eq
    refine (isWhiteSpace_eq_isBlank (toNat_of_isTextByte ht c ?_)).symm
    rw [hcs]
    exact List.mem_append_right _ hmem
  have htext := valueText?_of_isTextByte ht
  rw [String.ofList_toList] at htext
  simp only [bearerToken, hv, htext, htake, hdrop, hstrip, ne_eq, not_true_eq_false, if_false]
  cases core with
  | nil => rfl
  | cons c core => rfl

theorem bearerToken_of_other_scheme (hv : fields.get? authorization = some (Utf8.encode s))
    (ht : ∀ b ∈ Utf8.encode s, isTextByte b)
    (hs : (s.toList.take scheme.length).map lowerChar ≠ scheme) :
    bearerToken fields = .error .noCredentialPresented := by
  rw [← s.ofList_toList] at ht
  have htext := valueText?_of_isTextByte ht
  rw [String.ofList_toList] at htext
  simp only [bearerToken, hv, htext, ne_eq, hs, not_false_eq_true, if_true]

/-- A value that is text has another scheme, or the right one with something behind it. -/
theorem scheme_cases (ht : ∀ b ∈ value, isTextByte b) :
    (∃ s : String, value = Utf8.encode s ∧ (s.toList.take scheme.length).map lowerChar ≠ scheme) ∨
      ∃ s rest : String, value = Utf8.encode (s ++ rest) ∧ lower s = "bearer " := by
  obtain ⟨cs, rfl⟩ : ∃ cs, value = Utf8.encode (String.ofList cs) :=
    ⟨_, (Utf8.encode_ofBytes fun b hb => lt_of_isTextByte (ht b hb)).symm⟩
  by_cases hs : (cs.take scheme.length).map lowerChar = scheme
  · refine .inr ⟨String.ofList (cs.take scheme.length), String.ofList (cs.drop scheme.length),
      ?_, ?_⟩
    · rw [← String.ofList_append, List.take_append_drop]
    · rw [lower, String.toList_ofList, hs]
      rfl
  · exact .inl ⟨String.ofList cs, rfl, by rwa [String.toList_ofList]⟩

/-- A token is read exactly if the first field is text and has the scheme, and something else than
blanks behind it. -/
theorem bearerToken_eq_ok_iff :
    bearerToken fields = .ok token ↔
      ∃ s rest, fields.get? authorization = some (Utf8.encode (s ++ rest)) ∧
        (∀ b ∈ Utf8.encode (s ++ rest), isTextByte b) ∧ lower s = "bearer " ∧
        token.toList ≠ [] ∧ Stripped isBlank rest.toList token.toList := by
  constructor
  · intro h
    cases hv : fields.get? authorization with
    | none =>
      rw [bearerToken, hv] at h
      cases h
    | some value =>
      by_cases ht : ∀ b ∈ value, isTextByte b
      · rcases scheme_cases ht with ⟨s, rfl, hs⟩ | ⟨s, rest, rfl, hs⟩
        · rw [bearerToken_of_other_scheme hv ht hs] at h
          cases h
        · have hc := Text.stripped_strip isBlank rest.toList
          rw [bearerToken_of_scheme hv ht hs hc] at h
          split at h
          · cases h
          · next hn =>
            cases h
            rw [String.toList_ofList]
            exact ⟨s, rest, rfl, ht, hs, hn, hc⟩
      · rw [bearerToken_of_not_text hv ht] at h
        cases h
  · rintro ⟨s, rest, hv, ht, hs, hn, hc⟩
    rw [bearerToken_of_scheme hv ht hs hc, if_neg hn, String.ofList_toList]

theorem isTextByte_of_no_control (hc : ¬ IsControl b) (ha : b ≤ 0x7E) : isTextByte b := by
  rw [isTextByte_iff]
  by_cases hl : b < 0x20
  · exact .inl (Decidable.byContradiction fun hn => hc (.inr ⟨hl, hn⟩))
  · exact .inr ⟨UInt8.not_lt.1 hl, ha⟩

theorem isTextByte_bearer (h : ∀ b ∈ Utf8.encode token, ¬ IsControl b)
    (ha : ∀ b ∈ Utf8.encode token, b ≤ 0x7E) :
    ∀ b ∈ Utf8.encode ("Bearer " ++ token), isTextByte b := by
  have hs : (Utf8.encode "Bearer ").all isTextByte := by decide +kernel
  rw [Utf8.encode_append, List.forall_mem_append]
  exact ⟨List.all_eq_true.1 hs, fun b hb => isTextByte_of_no_control (h b hb) (ha b hb)⟩

theorem not_isTextByte_bearer (h : ∃ b ∈ Utf8.encode token, 0x7E < b) :
    ¬ ∀ b ∈ Utf8.encode ("Bearer " ++ token), isTextByte b := by
  obtain ⟨b, hb, hu⟩ := h
  intro hall
  rw [Utf8.encode_append, List.forall_mem_append] at hall
  rcases isTextByte_iff.1 (hall.2 b hb) with rfl | ⟨-, ha⟩
  · exact absurd hu (by decide)
  · exact UInt8.not_lt.2 ha hu

theorem bytes_of_graphic (h : ∀ c ∈ token.toList, IsGraphic c) :
    ∀ b ∈ Utf8.encode token, 0x20 ≤ b ∧ b ≤ 0x7E := by
  have ha : ∀ c ∈ token.toList, c.toNat < 128 := fun c hc => Nat.lt_trans (h c hc).2 (by decide)
  rw [← token.ofList_toList, Utf8.encode_ofList ha, List.forall_mem_map]
  intro c hc
  obtain ⟨hl, hu⟩ := h c hc
  have hn : (UInt8.ofNat c.toNat).toNat = c.toNat :=
    UInt8.toNat_ofNat_of_lt (Nat.lt_trans hu (by decide))
  rw [UInt8.le_iff_toNat_le, UInt8.le_iff_toNat_le, hn]
  exact ⟨Nat.le_of_succ_le hl, Nat.le_of_lt_succ hu⟩

theorem no_control_of_graphic (h : ∀ c ∈ token.toList, IsGraphic c) :
    ∀ b ∈ Utf8.encode token, ¬ IsControl b := by
  intro b hb
  obtain ⟨hl, hu⟩ := bytes_of_graphic h b hb
  rintro (rfl | ⟨hc, -⟩)
  · exact absurd hu (by decide)
  · exact UInt8.not_lt.2 hl hc

/-- A token that can be seen is put into header fields. -/
theorem setBearer_of_graphic (h : ∀ c ∈ token.toList, IsGraphic c) (fields : Headers) :
    setBearer fields token =
      .ok (fields.set authorization (Utf8.encode ("Bearer " ++ token))) :=
  setBearer_of_no_control (no_control_of_graphic h) fields

/-- It comes out again. -/
theorem bearerToken_setBearer (h : ∀ c ∈ token.toList, IsGraphic c) (hn : token.toList ≠ [])
    (hs : setBearer fields token = .ok fields') : bearerToken fields' = .ok token := by
  rw [setBearer_of_graphic h] at hs
  cases hs
  have ht := isTextByte_bearer (no_control_of_graphic h) fun b hb => (bytes_of_graphic h b hb).2
  have hb : ∀ c ∈ token.toList, isBlank c = false := by
    intro c hc
    have hc := h c hc
    simp only [isBlank, Bool.or_eq_false_iff, decide_eq_false_iff_not]
    constructor
    · rintro rfl
      exact absurd hc (by decide)
    · rintro rfl
      exact absurd hc (by decide)
  have hc : Stripped isBlank token.toList token.toList :=
    Text.strip_eq_iff.1 (Text.strip_eq_self hb)
  rw [bearerToken_of_scheme (fields.get?_set _ _) ht (by decide +kernel) hc, if_neg hn,
    String.ofList_toList]

/-- A token is refused exactly if it has a control character. Otherwise it becomes the one value of
its field, the other fields stay as they are, and what is read is the token without the blanks
around it, if it is of ASCII and there is anything else in it. Whatever the fields are, only the
first value of this one counts; and a token is read from it exactly if it is text and has the
scheme, in any case, and something else than blanks behind it. -/
theorem bearer_written_and_read (fields : Headers) (token : String) :
    ((∃ b ∈ Utf8.encode token, IsControl b) →
      setBearer fields token = .error .invalidValue) ∧
    ((∀ b ∈ Utf8.encode token, ¬ IsControl b) →
      ∃ fields', setBearer fields token = .ok fields' ∧
        fields'.values authorization = [Utf8.encode ("Bearer " ++ token)] ∧
        (∀ name, name ≠ authorization → fields'.values name = fields.values name) ∧
        ((∃ b ∈ Utf8.encode token, 0x7E < b) → bearerToken fields' = .error .malformedToken) ∧
        ((∀ b ∈ Utf8.encode token, b ≤ 0x7E) → (∀ c ∈ token.toList, isBlank c) →
          bearerToken fields' = .error .noCredentialPresented) ∧
        ((∀ b ∈ Utf8.encode token, b ≤ 0x7E) → (∃ c ∈ token.toList, ¬ isBlank c) →
          ∃ t : String, Stripped isBlank token.toList t.toList ∧ bearerToken fields' = .ok t)) ∧
    (∀ other : Headers, (other.values authorization).head? = (fields.values authorization).head? →
      bearerToken other = bearerToken fields) ∧
    ∀ t, bearerToken fields = .ok t ↔
      ∃ s rest, (fields.values authorization).head? = some (Utf8.encode (s ++ rest)) ∧
        (∀ b ∈ Utf8.encode (s ++ rest), b = 9 ∨ 0x20 ≤ b ∧ b ≤ 0x7E) ∧
        lower s = "bearer " ∧ (∃ c ∈ rest.toList, ¬ isBlank c) ∧
        Stripped isBlank rest.toList t.toList := by
  have hblank {rest : String} {core : List Char} (hc : Stripped isBlank rest.toList core) :
      core ≠ [] ↔ ∃ c ∈ rest.toList, ¬ isBlank c := by
    simp only [ne_eq, hc.eq_nil_iff, not_forall, exists_prop]
  refine ⟨fun h => setBearer_of_control h fields, ?written, fun other h => bearerToken_congr h,
    ?read⟩
  case written =>
    intro h
    have hv := fields.get?_set authorization (Utf8.encode ("Bearer " ++ token))
    have hc := Text.stripped_strip isBlank token.toList
    refine ⟨_, setBearer_of_no_control h fields, fields.values_set _ _,
      fun name hn => fields.values_set_of_ne _ hn, ?_, ?_, ?_⟩
    · exact fun hu => bearerToken_of_not_text hv (not_isTextByte_bearer hu)
    · intro ha hb
      rw [bearerToken_of_scheme hv (isTextByte_bearer h ha) (by decide +kernel) hc,
        if_pos (hc.eq_nil_iff.2 hb)]
    · intro ha hb
      refine ⟨String.ofList (Text.strip isBlank token.toList), by rwa [String.toList_ofList], ?_⟩
      rw [bearerToken_of_scheme hv (isTextByte_bearer h ha) (by decide +kernel) hc,
        if_neg ((hblank hc).2 hb)]
  case read =>
    intro t
    simp only [bearerToken_eq_ok_iff, isTextByte_iff]
    constructor
    · rintro ⟨s, rest, hv, ht, hs, hn, hc⟩
      exact ⟨s, rest, hv, ht, hs, (hblank hc).1 hn, hc⟩
    · rintro ⟨s, rest, hv, ht, hs, hn, hc⟩
      exact ⟨s, rest, hv, ht, hs, (hblank hc).2 hn, hc⟩

end TokenGate.Http
