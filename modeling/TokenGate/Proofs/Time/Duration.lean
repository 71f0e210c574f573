import TokenGate.Proofs.Text.Decimal
import TokenGate.Time.DurationText
/-!
Spans of time are read back from their texts if they came from texts. Others need not be: what is
left over after the last millisecond is not written.
-/
namespace TokenGate.Duration

/-- Spans that texts denote, by a word of seconds or of milliseconds. -/
inductive Denoted : Duration → Prop where
  | seconds (n : UInt64) : Denoted (ofWord n)
  | millis (n : UInt64) : Denoted (ofMillis n.toNat n.toNat_lt)

theorem denoted_of_parse (h : parse s = .ok d) : d.Denoted := by
  simp only [parse] at h
  split at h <;> split at h <;> cases h
  · exact .millis _
  · exact .seconds _
  · exact .seconds _
  · exact .seconds _

theorem count?_digits (n : UInt64) : count? (Text.digits n.toNat) = some n := by
  have hs : Text.strip Text.isWhiteSpace (Text.digits n.toNat) = Text.digits n.toNat := by
    apply Text.strip_eq_self
    intro c hc
    exact Text.not_isWhiteSpace_of_isDigit (Text.isDigit_of_mem_digits hc)
  simp only [count?, hs, Text.unsigned?_digits n.toNat_lt, Option.map_some, UInt64.ofNat_toNat]

/-- Digits and a unit have no white space around them. -/
theorem strip_digits (unit : List Char) (hu : unit.any Text.isWhiteSpace = false) (n : Nat) :
    Text.strip Text.isWhiteSpace (Text.digits n ++ unit) = Text.digits n ++ unit := by
  apply Text.strip_eq_self
  intro c hc
  rcases List.mem_append.1 hc with hc | hc
  · exact Text.not_isWhiteSpace_of_isDigit (Text.isDigit_of_mem_digits hc)
  · exact Bool.eq_false_iff.2 (List.any_eq_false.1 hu c hc)

theorem parse_millis (n : UInt64) :
    parse (String.ofList (Text.digits n.toNat ++ ['m', 's'])) =
      .ok (ofMillis n.toNat n.toNat_lt) := by
  have hs := strip_digits ['m', 's'] rfl n.toNat
  simp only [parse, String.toList_ofList, hs, List.reverse_append, List.reverse_cons,
    List.reverse_nil, List.nil_append, List.cons_append, List.reverse_reverse, count?_digits]

theorem parse_seconds (n : UInt64) :
    parse (String.ofList (Text.digits n.toNat ++ ['s'])) = .ok (ofWord n) := by
  -- a last digit is not the first letter of milliseconds
  have hm (rest : List Char) : (Text.digits n.toNat).reverse ≠ 'm' :: rest := by
    intro h
    have hd : 'm' ∈ Text.digits n.toNat := by
      rw [← List.mem_reverse, h]
      exact List.mem_cons_self
    exact absurd (Text.isDigit_of_mem_digits hd) (by decide)
  have hs := strip_digits ['s'] rfl n.toNat
  rw [parse, String.toList_ofList, hs, List.reverse_append, List.reverse_singleton,
    List.singleton_append]
  generalize hr : (Text.digits n.toNat).reverse = r at hm ⊢
  have hc : count? r.reverse = some n := by rw [← hr, List.reverse_reverse, count?_digits]
  split
  · next h =>
    cases h
    exact absurd rfl (hm _)
  · next h =>
    cases h
    rw [hc]
  · next h => cases h
  · next _ h _ => exact absurd rfl (h r)

variable {d : Duration}

theorem text_seconds (h : d.subsecMillis = 0) :
    d.text = String.ofList (Text.digits d.seconds ++ ['s']) := by
  have hd : (toString d.seconds).toList = Text.digits d.seconds := String.toList_ofList
  have hu : (toString "s").toList = ['s'] := rfl
  rw [text, if_pos h, ← String.toList_inj]
  simp only [String.toList_append, String.toList_ofList, hd, hu]

theorem text_millis (h : d.subsecMillis ≠ 0) :
    d.text = String.ofList (Text.digits d.millis ++ ['m', 's']) := by
  have hd : (toString d.millis).toList = Text.digits d.millis := String.toList_ofList
  have hu : (toString "ms").toList = ['m', 's'] := rfl
  rw [text, if_neg h, ← String.toList_inj]
  simp only [String.toList_append, String.toList_ofList, hd, hu]

theorem subsecMillis_ofMillis (n : Nat) (h : n < 0x1_0000_0000_0000_0000) :
    (ofMillis n h).subsecMillis = n % 1000 := Nat.mul_div_cancel _ (by decide)

theorem millis_ofMillis (n : Nat) (h : n < 0x1_0000_0000_0000_0000) :
    (ofMillis n h).millis = n := by
  rw [millis, subsecMillis_ofMillis]
  exact Nat.div_add_mod' n 1000

/-- Milliseconds without a rest are whole seconds. -/
theorem ofWord_div (n : UInt64) (h : n.toNat % 1000 = 0) :
    ofWord (n / 1000) = ofMillis n.toNat n.toNat_lt := by
  have hd : (n / 1000).toNat = n.toNat / 1000 := UInt64.toNat_div n 1000
  simp only [ofWord, ofSeconds, ofMillis, hd, h, Nat.zero_mul]

/-- A span that a text denotes is read back from its own text. -/
theorem parse_text (h : d.Denoted) : parse d.text = .ok d := by
  cases h with
  | seconds n =>
    rw [text_seconds (Nat.zero_div _)]
    exact parse_seconds n
  | millis n =>
    -- the unit of the text is not that of the text that was read: whole seconds are written so
    by_cases hz : n.toNat % 1000 = 0
    · rw [← ofWord_div n hz, text_seconds (Nat.zero_div _)]
      exact parse_seconds (n / 1000)
    · have hm : (ofMillis n.toNat n.toNat_lt).subsecMillis ≠ 0 := by
        rwa [subsecMillis_ofMillis]
      rw [text_millis hm, millis_ofMillis]
      exact parse_millis n

theorem toNanos_inj {d d' : Duration} (h : d.toNanos = d'.toNanos) : d = d' := by
  have hn := d.nanos_lt
  have hn' := d'.nanos_lt
  obtain ⟨s, n, _, _⟩ := d
  obtain ⟨s', n', _, _⟩ := d'
  simp only [toNanos] at h hn hn'
  obtain ⟨rfl, rfl⟩ : s = s' ∧ n = n' := by omega
  rfl

theorem subsecMillis_lt (d : Duration) : d.subsecMillis < 1000 := by
  have hn := d.nanos_lt
  rw [subsecMillis]
  omega

/-- What is left of a span without what comes after its last whole millisecond. -/
def floorMillis (d : Duration) : Duration where
  seconds := d.seconds
  nanos := d.subsecMillis * 1000000
  seconds_lt := d.seconds_lt
  nanos_lt := by
    have hd := d.subsecMillis_lt
    omega

theorem subsecMillis_floorMillis (d : Duration) : d.floorMillis.subsecMillis = d.subsecMillis :=
  Nat.mul_div_cancel _ (by decide)

theorem millis_floorMillis (d : Duration) : d.floorMillis.millis = d.millis := by
  rw [millis, subsecMillis_floorMillis]
  rfl

/-- What is dropped is not written. -/
theorem text_floorMillis (d : Duration) : d.floorMillis.text = d.text := by
  rw [text, text, subsecMillis_floorMillis, millis_floorMillis]
  rfl

theorem toNanos_floorMillis (d : Duration) : d.floorMillis.toNanos = d.millis * 1000000 := by
  simp only [toNanos, millis, floorMillis]
  omega

theorem toNanos_millis (d : Duration) :
    d.millis * 1000000 ≤ d.toNanos ∧ d.toNanos < d.millis * 1000000 + 1000000 := by
  simp only [toNanos, millis, subsecMillis]
  omega

/-- Texts denote whole milliseconds. -/
theorem Denoted.toNanos_eq (h : d.Denoted) : d.toNanos = d.millis * 1000000 := by
  cases h with
  | seconds n =>
    simp only [toNanos, Duration.millis, subsecMillis, ofWord, ofSeconds]
    omega
  | millis n =>
    rw [millis_ofMillis]
    simp only [toNanos, ofMillis]
    omega

/-- The only span that a text denotes and that is less than a millisecond below another one. -/
theorem Denoted.eq_floorMillis {d' : Duration} (h : d'.Denoted) (hle : d' ≤ d)
    (hlt : d.toNanos < d'.toNanos + 1000000) : d' = d.floorMillis := by
  apply toNanos_inj
  have hd := d.toNanos_millis
  have hle : d'.toNanos ≤ d.toNanos := hle
  rw [toNanos_floorMillis]
  rw [h.toNanos_eq] at hle hlt ⊢
  omega

theorem denoted_floorMillis_iff :
    d.floorMillis.Denoted ↔ d.subsecMillis = 0 ∨ d.millis < 0x1_0000_0000_0000_0000 := by
  constructor
  · intro h
    rw [← subsecMillis_floorMillis, ← millis_floorMillis]
    generalize d.floorMillis = f at h ⊢
    cases h with
    | seconds n => exact .inl (Nat.zero_div _)
    | millis n =>
      rw [millis_ofMillis]
      exact .inr n.toNat_lt
  · rintro (h | h)
    · have hw := UInt64.toNat_ofNat_of_lt' d.seconds_lt
      have he : d.floorMillis = ofWord (.ofNat d.seconds) := by
        apply toNanos_inj
        simp only [floorMillis, toNanos, ofWord, ofSeconds, hw, h, Nat.zero_mul]
      rw [he]
      exact .seconds _
    · have hw := UInt64.toNat_ofNat_of_lt' h
      have he : d.floorMillis =
          ofMillis (UInt64.ofNat d.millis).toNat (UInt64.ofNat d.millis).toNat_lt := by
        apply toNanos_inj
        rw [toNanos_floorMillis]
        simp only [toNanos, ofMillis, hw]
        omega
      rw [he]
      exact .millis _

end TokenGate.Duration
