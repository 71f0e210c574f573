import TokenGate.Proofs.Encoding.Hex
import TokenGate.Proofs.Text.WhiteSpace
import TokenGate.Secret
/-!
The texts from which a secret is read, and what is wrong with every other text. A secret is read
back from its own text, whatever white space there is around it.
-/
namespace TokenGate.Secret

open Hex (IsDigit Spells)
open Text (Stripped)

/-- A text without the one prefix that it may have. -/
inductive Unprefixed : List Char → List Char → Prop where
  | lower : Unprefixed ('0' :: 'x' :: cs) cs
  | upper : Unprefixed ('0' :: 'X' :: cs) cs
  | bare (h : ∀ c rest, cs = '0' :: c :: rest → c ≠ 'x' ∧ c ≠ 'X') : Unprefixed cs cs

/-- What a text is without the white space around it and without a prefix. -/
def Remains (s : String) (digits : List Char) : Prop :=
  ∃ core, Stripped Text.isWhiteSpace s.toList core ∧ Unprefixed core digits

variable {s : String} {cs digits digits' front back : List Char} {secret : Secret}

theorem unprefixed_stripPrefix (cs : List Char) : Unprefixed cs (stripPrefix cs) := by
  unfold stripPrefix
  split
  · exact .lower
  · exact .upper
  · next hl hu =>
    refine .bare ?_
    rintro c rest rfl
    exact ⟨fun h => hl rest (by rw [h]), fun h => hu rest (by rw [h])⟩

theorem Unprefixed.stripPrefix_eq (h : Unprefixed cs digits) : stripPrefix cs = digits := by
  cases h with
  | lower => rfl
  | upper => rfl
  | bare h =>
    unfold stripPrefix
    split
    · exact ((h _ _ rfl).1 rfl).elim
    · exact ((h _ _ rfl).2 rfl).elim
    · rfl

theorem exists_remains (s : String) : ∃ digits, Remains s digits :=
  ⟨_, _, Text.stripped_strip _ _, unprefixed_stripPrefix _⟩

theorem Remains.unique (h : Remains s digits) (h' : Remains s digits') : digits = digits' := by
  obtain ⟨core, hc, hu⟩ := h
  obtain ⟨core', hc', hu'⟩ := h'
  obtain rfl := hc.unique hc'
  exact hu.stripPrefix_eq.symm.trans hu'.stripPrefix_eq

theorem ofBytes_eq_ok_iff {b : Bytes} : ofBytes b = .ok secret ↔ b = secret.bytes := by
  constructor
  · intro h
    rw [ofBytes] at h
    split at h
    · cases h
      rfl
    · cases h
  · rintro rfl
    exact dif_pos secret.length_eq

theorem Remains.parse_of_fault (h : Remains s digits)
    (hf : Hex.decode (String.ofList digits) = .error f) : parse s = .error (.invalidHex f) := by
  obtain ⟨core, hc, hu⟩ := h
  simp only [parse, hc.strip_eq, hu.stripPrefix_eq, hf]

theorem Remains.parse_of_spells (h : Remains s digits) (hs : Spells digits b) :
    parse s = ofBytes b := by
  obtain ⟨core, hc, hu⟩ := h
  simp only [parse, hc.strip_eq, hu.stripPrefix_eq, Hex.decode_of_spells hs]

theorem Remains.parse_eq_ok_iff (h : Remains s digits) :
    parse s = .ok secret ↔ Spells digits secret.bytes := by
  constructor
  · intro hp
    cases hd : Hex.decode (String.ofList digits) with
    | error f =>
      rw [h.parse_of_fault hd] at hp
      cases hp
    | ok b =>
      have hs := Hex.decode_eq_ok_iff.1 hd
      rw [h.parse_of_spells hs, ofBytes_eq_ok_iff] at hp
      rwa [← hp]
  · intro hs
    rw [h.parse_of_spells hs, ofBytes_eq_ok_iff]

/-- Among white space, the text of a secret remains without its prefix. -/
theorem remains_toHex {front back : String} (hf : ∀ c ∈ front.toList, Text.isWhiteSpace c)
    (hb : ∀ c ∈ back.toList, Text.isWhiteSpace c) (secret : Secret) :
    Remains (front ++ secret.toHex ++ back) (Hex.encodeChars secret.bytes) := by
  have ht : secret.toHex.toList = '0' :: 'x' :: Hex.encodeChars secret.bytes := by
    have hp : "0x".toList = ['0', 'x'] := rfl
    simp only [toHex, Hex.encode, String.toList_append, String.toList_ofList, hp, List.cons_append,
      List.nil_append]
  have hw : ∀ c ∈ secret.toHex.toList, Text.isWhiteSpace c = false := by
    rw [ht, List.forall_mem_cons, List.forall_mem_cons]
    refine ⟨rfl, rfl, fun c hc => ?_⟩
    obtain ⟨n, hd⟩ := (Hex.spells_encodeChars secret.bytes).exists_digit c hc
    exact hd.not_isWhiteSpace
  have hs : Stripped Text.isWhiteSpace secret.toHex.toList secret.toHex.toList :=
    Text.strip_eq_iff.1 (Text.strip_eq_self hw)
  refine ⟨'0' :: 'x' :: Hex.encodeChars secret.bytes, ?_, .lower⟩
  rw [String.toList_append, String.toList_append, ← ht]
  exact hs.pad hf hb

theorem parse_padded {front back : String} (hf : ∀ c ∈ front.toList, Text.isWhiteSpace c)
    (hb : ∀ c ∈ back.toList, Text.isWhiteSpace c) (secret : Secret) :
    parse (front ++ secret.toHex ++ back) = .ok secret :=
  (remains_toHex hf hb secret).parse_eq_ok_iff.2 (Hex.spells_encodeChars _)

theorem parse_toHex (secret : Secret) : parse secret.toHex = .ok secret := by
  have hn : ∀ c ∈ "".toList, Text.isWhiteSpace c := List.forall_mem_nil _
  have h := parse_padded hn hn secret
  rwa [String.empty_append, String.append_empty] at h

/-- A secret is read exactly from the texts that, without white space around them and one prefix,
are 64 digits which spell it, so that these are determined but for the case of letters; its own text
is among them. What is wrong with any other text is that it has an odd number of bytes, or else a
first byte that is no digit, or else another number of digits. -/
theorem parse_exact (s : String) :
    (∃ digits, (∀ cs, Remains s cs ↔ cs = digits) ∧
      (∀ secret, parse s = .ok secret ↔ digits.length = 64 ∧ Spells digits secret.bytes) ∧
      let bytes := Utf8.encode (String.ofList digits)
      (bytes.length % 2 = 1 → parse s = .error (.invalidHex .oddLength)) ∧
      (bytes.length % 2 = 0 → ∀ before b after, bytes = before ++ b :: after →
        (∀ x ∈ before, IsDigit x) → ¬ IsDigit b →
        parse s = .error (.invalidHex (.badDigit b before.length))) ∧
      (bytes.length % 2 = 0 → (∀ b ∈ bytes, IsDigit b) → bytes.length ≠ 64 →
        ∃ n, bytes.length = 2 * n ∧ n ≠ 32 ∧ parse s = .error (.invalidLength n))) ∧
    (∀ s' secret, parse s = .ok secret → parse s' = .ok secret →
      ∀ digits digits', Remains s digits → Remains s' digits' →
        digits.map Char.toLower = digits'.map Char.toLower) ∧
    ∀ front back : String, (∀ c ∈ front.toList, Text.isWhiteSpace c) →
      (∀ c ∈ back.toList, Text.isWhiteSpace c) → ∀ secret,
        parse (front ++ secret.toHex ++ back) = .ok secret := by
  obtain ⟨digits, hr⟩ := exists_remains s
  refine ⟨⟨digits, ?remains, ?secret, ?odd, ?bad, ?length⟩, ?case, ?own⟩
  case remains =>
    intro cs
    constructor
    · exact fun h => h.unique hr
    · rintro rfl
      exact hr
  case secret =>
    intro secret
    rw [hr.parse_eq_ok_iff]
    refine (and_iff_right_of_imp fun hs => ?_).symm
    rw [hs.length_eq, secret.length_eq]
  case odd => exact fun ho => hr.parse_of_fault (Hex.decode_of_odd ho)
  case bad =>
    intro he before b after hs hd hb
    exact hr.parse_of_fault (Hex.decode_of_bad he hs hd hb)
  case length =>
    intro he hd hl
    obtain ⟨b, hs⟩ := Hex.exists_spells_of_digits he hd
    have hn : b.length ≠ 32 := by
      rw [hs.length_encode] at hl
      omega
    refine ⟨b.length, hs.length_encode, hn, ?_⟩
    rw [hr.parse_of_spells hs, ofBytes, dif_neg hn]
  case case =>
    intro s' secret hs hs' cs cs' hc hc'
    rw [(hc.parse_eq_ok_iff.1 hs).toLower, (hc'.parse_eq_ok_iff.1 hs').toLower]
  case own => exact fun front back hf hb secret => parse_padded hf hb secret

end TokenGate.Secret
