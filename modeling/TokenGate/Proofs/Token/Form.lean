import TokenGate.Proofs.Encoding.Base64Url
import TokenGate.Proofs.Json.Object
import TokenGate.Proofs.Json.Scan
import TokenGate.Token.Compact
/-!
The form of a token: three parts in Base64, of which the first two hold objects. A text is decoded
exactly if it has this form.
-/
namespace TokenGate.Token

open Json (Ascending Holds lastValue sortMembers lookup_sortMembers)

/-- A type is missing or null, or it is a string. -/
def IsType (j : Option Json) : Option String → Prop
  | none => j = none ∨ j = some .null
  | some typ => j = some (.str typ)

/-- A time of issue is missing or null, or it is a whole number of 64 bits with a sign. -/
def IsIssueTime (j : Option Json) : Option Int64 → Prop
  | none => j = none ∨ j = some .null
  | some iat => j = some (Json.ofInt iat.toInt)

/-- A token taken apart: the bytes of its parts, the members of its header and of its claims in the
order in which they are written, and what they say. -/
structure Form where
  header : Bytes
  claims : Bytes
  signature : Bytes
  headerMembers : List (String × Json)
  members : List (String × Json)
  alg : String
  typ : Option String
  iat : Option Int64

namespace Form

/-- The text before the second point. -/
def input (f : Form) : String := Base64Url.encode f.header ++ "." ++ Base64Url.encode f.claims

/-- A token has this form. -/
structure Fits (f : Form) (token : String) : Prop where
  parts : token = f.input ++ "." ++ Base64Url.encode f.signature
  header : Holds f.header f.headerMembers
  claims : Holds f.claims f.members
  alg : lastValue "alg" f.headerMembers = some (.str f.alg)
  typ : IsType (lastValue "typ" f.headerMembers) f.typ
  iat : IsIssueTime (lastValue "iat" f.members) f.iat

/-- A token has this form as far as its header, its signature and the object of its claims go. What
the claims give as their time of issue may be anything. -/
structure Outlines (f : Form) (token : String) : Prop where
  parts : token = f.input ++ "." ++ Base64Url.encode f.signature
  header : Holds f.header f.headerMembers
  claims : Holds f.claims f.members
  alg : lastValue "alg" f.headerMembers = some (.str f.alg)
  typ : IsType (lastValue "typ" f.headerMembers) f.typ

theorem Outlines.fits {f : Form} (h : f.Outlines token)
    (hi : IsIssueTime (lastValue "iat" f.members) f.iat) : f.Fits token :=
  ⟨h.parts, h.header, h.claims, h.alg, h.typ, hi⟩

/-- All members of the claims but the time of issue. -/
def extra (f : Form) : List (String × Json) := (sortMembers f.members).filter (·.1 ≠ "iat")

def decoded (f : Form) : Decoded := ⟨⟨f.alg, f.typ⟩, ⟨f.iat, f.extra⟩, f.input, f.signature⟩

end Form

theorem header_ofMembers?_eq_some_iff (members : List (String × Json)) :
    Header.ofMembers? members = some hd ↔
      members.lookup "alg" = some (.str hd.alg) ∧ IsType (members.lookup "typ") hd.typ := by
  rw [Header.ofMembers?]
  constructor
  · intro h
    split at h
    · next ha ht =>
      cases h
      exact ⟨ha, .inl ht⟩
    · next ha ht =>
      cases h
      exact ⟨ha, .inr ht⟩
    · next ha ht =>
      cases h
      exact ⟨ha, ht⟩
    · cases h
  · rintro ⟨ha, ht⟩
    obtain ⟨alg, typ⟩ := hd
    cases typ with
    | none =>
      rcases ht with ht | ht
      · simp only [ha, ht]
      · simp only [ha, ht]
    | some typ =>
      have ht : members.lookup "typ" = some (.str typ) := ht
      simp only [ha, ht]

theorem ofInt_toInt (iat : Int64) :
    ∃ hi, Json.ofInt iat.toInt = .num (.int iat.toInt hi) := by
  have hle := iat.le_toInt
  have hlt := iat.toInt_lt
  have hi : -0x8000_0000_0000_0000 ≤ iat.toInt ∧ iat.toInt < 0x1_0000_0000_0000_0000 := by omega
  refine ⟨hi, ?_⟩
  rw [Json.ofInt, Json.Number.ofInt?_eq_some _ hi]

theorem seconds?_eq_some_iff : Claims.seconds? j = some iat ↔ j = Json.ofInt iat.toInt := by
  constructor
  · intro h
    unfold Claims.seconds? at h
    split at h
    · next i hi =>
      split at h
      · next hlt =>
        cases h
        rw [Int64.toInt_ofInt_of_le hi.1 hlt, Json.ofInt, Json.Number.ofInt?_eq_some i hi]
      · cases h
    · cases h
  · rintro rfl
    obtain ⟨hi, he⟩ := ofInt_toInt iat
    have hlt : iat.toInt < 0x8000_0000_0000_0000 := iat.toInt_lt
    rw [he, Claims.seconds?, if_pos hlt, Int64.ofInt_toInt]

theorem ofInt_ne_null (iat : Int64) : Json.ofInt iat.toInt ≠ .null := by
  obtain ⟨hi, he⟩ := ofInt_toInt iat
  rw [he]
  exact Json.noConfusion

theorem claims_ofMembers?_eq_some_iff (members : List (String × Json)) :
    Claims.ofMembers? members = some c ↔
      IsIssueTime (members.lookup "iat") c.iat ∧ c.extra = members.filter (·.1 ≠ "iat") := by
  obtain ⟨iat, extra⟩ := c
  simp only [Claims.ofMembers?]
  constructor
  · intro h
    split at h
    · next hi =>
      cases h
      exact ⟨.inl hi, rfl⟩
    · next hi =>
      cases h
      exact ⟨.inr hi, rfl⟩
    · next j hi hj =>
      obtain ⟨seconds, hs, he⟩ := Option.map_eq_some_iff.1 h
      cases he
      rw [seconds?_eq_some_iff.1 hs] at hj
      exact ⟨hj, rfl⟩
  · rintro ⟨hi, rfl⟩
    cases iat with
    | none =>
      rcases hi with hi | hi
      · simp only [hi]
      · simp only [hi]
    | some iat =>
      have hi : members.lookup "iat" = some (Json.ofInt iat.toInt) := hi
      rw [hi]
      split
      · next he => cases he
      · next he => exact (ofInt_ne_null iat (Option.some.inj he)).elim
      · next j hj he =>
        cases he
        rw [seconds?_eq_some_iff.2 rfl, Option.map_some]

theorem toList_of_parts? (hp : parts? token = some (h, c, s)) :
    token.toList = h ++ '.' :: (c ++ '.' :: s) := by
  rw [parts?] at hp
  split at hp
  · next h' c' s' he =>
    cases hp
    have hi : ['.'].intercalate (token.toList.splitOn '.') = token.toList :=
      List.intercalate_splitOn '.'
    rw [he] at hi
    rw [← hi]
    simp [List.intercalate]
  · cases hp

theorem parts?_of_toList (hh : '.' ∉ h) (hc : '.' ∉ c) (hs : '.' ∉ s)
    (ht : token.toList = h ++ '.' :: (c ++ '.' :: s)) : parts? token = some (h, c, s) := by
  rw [parts?, ht, List.splitOn_append_cons_self_of_not_mem hh,
    List.splitOn_append_cons_self_of_not_mem hc, List.splitOn_eq_singleton hs]

theorem toList_compact (h c s : Bytes) :
    (Base64Url.encode h ++ "." ++ Base64Url.encode c ++ "." ++ Base64Url.encode s).toList =
      Base64Url.encodeChars h ++
        '.' :: (Base64Url.encodeChars c ++ '.' :: Base64Url.encodeChars s) := by
  simp [Base64Url.encode]

theorem parts?_compact (h c s : Bytes) :
    parts? (Base64Url.encode h ++ "." ++ Base64Url.encode c ++ "." ++ Base64Url.encode s) =
      some (Base64Url.encodeChars h, Base64Url.encodeChars c, Base64Url.encodeChars s) :=
  parts?_of_toList (Base64Url.point_notMem_encodeChars h) (Base64Url.point_notMem_encodeChars c)
    (Base64Url.point_notMem_encodeChars s) (toList_compact h c s)

theorem encodeChars_inj (h : Base64Url.encodeChars b = Base64Url.encodeChars b') : b = b' := by
  have he := congrArg Base64Url.decodeChars? h
  rw [Base64Url.decodeChars?_encodeChars, Base64Url.decodeChars?_encodeChars] at he
  exact Option.some.inj he

theorem members?_eq_some_iff :
    members? cs = some ms ↔
      ∃ b written, cs = Base64Url.encodeChars b ∧ Holds b written ∧
        ms = sortMembers written := by
  simp only [members?, Option.bind_eq_bind, Option.bind_eq_some_iff]
  constructor
  · rintro ⟨b, hb, j, hj, hm⟩
    split at hm
    · cases hm
      obtain ⟨written, hw, hs⟩ := Json.ofBytes?_eq_obj_iff.1 hj
      exact ⟨b, written, Base64Url.decodeChars?_eq_some_iff.1 hb, hw, hs⟩
    · cases hm
  · rintro ⟨b, written, hb, hw, hs⟩
    exact ⟨b, Base64Url.decodeChars?_eq_some_iff.2 hb, .obj ms,
      Json.ofBytes?_eq_obj_iff.2 ⟨written, hw, hs⟩, rfl⟩

theorem decode?_eq_some_iff_parts :
    decode? token = some d ↔ ∃ h c s hm cm hd cl sig, parts? token = some (h, c, s) ∧
      members? h = some hm ∧ Header.ofMembers? hm = some hd ∧ members? c = some cm ∧
      Claims.ofMembers? cm = some cl ∧ Base64Url.decodeChars? s = some sig ∧
      d = ⟨hd, cl, String.ofList (h ++ '.' :: c), sig⟩ := by
  simp only [decode?, Option.bind_eq_bind, Option.bind_eq_some_iff, Option.pure_def,
    Option.some.injEq, Prod.exists]
  constructor
  · rintro ⟨h, c, s, hp, hm, hhm, hd, hhd, cm, hcm, cl, hcl, sig, hs, rfl⟩
    exact ⟨h, c, s, hm, cm, hd, cl, sig, hp, hhm, hhd, hcm, hcl, hs, rfl⟩
  · rintro ⟨h, c, s, hm, cm, hd, cl, sig, hp, hhm, hhd, hcm, hcl, hs, rfl⟩
    exact ⟨h, c, s, hp, hm, hhm, hd, hhd, cm, hcm, cl, hcl, sig, hs, rfl⟩

theorem ofList_input (h c : Bytes) :
    String.ofList (Base64Url.encodeChars h ++ '.' :: Base64Url.encodeChars c) =
      Base64Url.encode h ++ "." ++ Base64Url.encode c := by
  rw [← String.toList_inj]
  simp [Base64Url.encode]

/-- A text is decoded exactly if it has the form of a token. -/
theorem decode?_eq_some_iff :
    decode? token = some d ↔ ∃ f : Form, f.Fits token ∧ d = f.decoded := by
  rw [decode?_eq_some_iff_parts]
  constructor
  · rintro ⟨h, c, s, hm, cm, hd, cl, sig, hp, hhm, hhd, hcm, hcl, hs, rfl⟩
    obtain ⟨bh, wh, rfl, hwh, rfl⟩ := members?_eq_some_iff.1 hhm
    obtain ⟨bc, wc, rfl, hwc, rfl⟩ := members?_eq_some_iff.1 hcm
    obtain rfl := Base64Url.decodeChars?_eq_some_iff.1 hs
    obtain ⟨ha, ht⟩ := (header_ofMembers?_eq_some_iff _).1 hhd
    obtain ⟨hi, hx⟩ := (claims_ofMembers?_eq_some_iff _).1 hcl
    rw [lookup_sortMembers] at ha ht hi
    refine ⟨⟨bh, bc, sig, wh, wc, hd.alg, hd.typ, cl.iat⟩, ⟨?_, hwh, hwc, ha, ht, hi⟩, ?_⟩
    · rw [← String.toList_inj, toList_of_parts? hp]
      exact (toList_compact bh bc sig).symm
    · rw [Form.decoded, Form.extra, Form.input, ofList_input, ← hx]
  · rintro ⟨f, hf, rfl⟩
    have hp : parts? token = some (Base64Url.encodeChars f.header,
        Base64Url.encodeChars f.claims, Base64Url.encodeChars f.signature) := by
      rw [hf.parts]
      exact parts?_compact _ _ _
    refine ⟨_, _, _, sortMembers f.headerMembers, sortMembers f.members, ⟨f.alg, f.typ⟩,
      ⟨f.iat, f.extra⟩, f.signature, hp, members?_eq_some_iff.2 ⟨_, _, rfl, hf.header, rfl⟩,
      (header_ofMembers?_eq_some_iff _).2 ?_, members?_eq_some_iff.2 ⟨_, _, rfl, hf.claims, rfl⟩,
      (claims_ofMembers?_eq_some_iff _).2 ?_, Base64Url.decodeChars?_encodeChars _, ?_⟩
    · rw [lookup_sortMembers, lookup_sortMembers]
      exact ⟨hf.alg, hf.typ⟩
    · rw [lookup_sortMembers]
      exact ⟨hf.iat, rfl⟩
    · rw [Form.decoded, Form.input, ofList_input]

theorem decode_eq_ok_iff :
    decode token = .ok d ↔ ∃ f : Form, f.Fits token ∧ d = f.decoded := by
  rw [← decode?_eq_some_iff, decode]
  cases decode? token <;> simp

theorem decode_eq_error_iff :
    decode token = .error e ↔ e = .malformedToken ∧ ∀ f : Form, ¬ f.Fits token := by
  have hnone : decode? token = none ↔ ∀ f : Form, ¬ f.Fits token := by
    constructor
    · intro hn f hf
      rw [decode?_eq_some_iff.2 ⟨f, hf, rfl⟩] at hn
      cases hn
    · intro hall
      cases hd : decode? token with
      | none => rfl
      | some d =>
        obtain ⟨f, hf, -⟩ := decode?_eq_some_iff.1 hd
        exact (hall f hf).elim
  rw [← hnone, decode]
  cases decode? token <;> simp [eq_comm]

end TokenGate.Token
