import Mathlib.Data.List.Induction
import TokenGate.Encoding.Hex
import TokenGate.Proofs.Text.Utf8
import TokenGate.Text.WhiteSpace
/-!
Which texts spell bytes in hexadecimal, and the fault that is found in every other one.
-/
namespace TokenGate.Hex

/-- A digit, in either case, and its value. -/
def Digit (c : Char) (n : Nat) : Prop :=
  "0123456789abcdef".toList[n]? = some c ∨ "0123456789ABCDEF".toList[n]? = some c

instance (c : Char) (n : Nat) : Decidable (Digit c n) := inferInstanceAs (Decidable (_ ∨ _))

/-- Two digits for each byte, of which the first counts sixteen times. -/
inductive Spells : List Char → Bytes → Prop where
  | nil : Spells [] []
  | cons (high : Digit c n) (low : Digit d m) (rest : Spells cs bytes) :
      Spells (c :: d :: cs) (UInt8.ofNat (16 * n + m) :: bytes)

/-- Bytes by which digits are encoded. -/
def IsDigit (b : UInt8) : Prop := ∃ c n, Digit c n ∧ b = UInt8.ofNat c.toNat

variable {c : Char} {n : Nat} {b : UInt8} {cs : List Char} {bytes before after : Bytes}

theorem Digit.lt (h : Digit c n) : n < 16 := by
  rcases h with h | h
  · exact (List.getElem?_eq_some_iff.1 h).1
  · exact (List.getElem?_eq_some_iff.1 h).1

/-- What holds of all digits is tried out on each of them. -/
theorem Digit.forall {p : Char → Nat → Prop}
    (hl : ∀ i : Fin 16, p ("0123456789abcdef".toList[i.val]) i.val)
    (hu : ∀ i : Fin 16, p ("0123456789ABCDEF".toList[i.val]) i.val)
    (h : Digit c n) : p c n := by
  rcases h with h | h
  · obtain ⟨hn, rfl⟩ := List.getElem?_eq_some_iff.1 h
    exact hl ⟨n, hn⟩
  · obtain ⟨hn, rfl⟩ := List.getElem?_eq_some_iff.1 h
    exact hu ⟨n, hn⟩

theorem Digit.toNat_lt (h : Digit c n) : c.toNat < 128 :=
  h.forall (p := fun c _ => c.toNat < 128) (by decide) (by decide)

theorem Digit.nibble? (h : Digit c n) : nibble? (UInt8.ofNat c.toNat) = some n :=
  h.forall (p := fun c n => Hex.nibble? (UInt8.ofNat c.toNat) = some n) (by decide) (by decide)

theorem Digit.toLower (h : Digit c n) : c.toLower = digitChar n :=
  h.forall (p := fun c n => c.toLower = digitChar n) (by decide) (by decide)

theorem Digit.not_isWhiteSpace (h : Digit c n) : Text.isWhiteSpace c = false :=
  h.forall (p := fun c _ => Text.isWhiteSpace c = false) (by decide) (by decide)

theorem digit_of_nibble? (h : Hex.nibble? b = some n) :
    Digit (Char.ofNat b.toNat) n ∧ b.toNat < 128 := by
  have hall : ∀ i : Fin 256,
      (Hex.nibble? (UInt8.ofNat i)).all fun n => Digit (Char.ofNat i) n ∧ i.val < 128 := by
    decide +kernel
  have hb := hall ⟨b.toNat, b.toNat_lt⟩
  rw [UInt8.ofNat_toNat, h] at hb
  exact of_decide_eq_true hb

theorem isDigit_iff : IsDigit b ↔ ∃ n, Hex.nibble? b = some n := by
  constructor
  · rintro ⟨c, n, hc, rfl⟩
    exact ⟨n, hc.nibble?⟩
  · rintro ⟨n, h⟩
    obtain ⟨hd, hl⟩ := digit_of_nibble? h
    refine ⟨Char.ofNat b.toNat, n, hd, ?_⟩
    rw [Utf8.toNat_ofNat hl, UInt8.ofNat_toNat]

theorem IsDigit.lt (h : IsDigit b) : b < 0x80 := by
  obtain ⟨n, h⟩ := isDigit_iff.1 h
  exact UInt8.lt_iff_toNat_lt.2 (digit_of_nibble? h).2

theorem nibble_of_some (h : Hex.nibble? b = some n) (index : Nat) : nibble index b = .ok n := by
  rw [nibble, h]

theorem nibble_of_not_digit (h : ¬ IsDigit b) (index : Nat) :
    nibble index b = .error (.badDigit b index) := by
  cases hn : Hex.nibble? b with
  | none => rw [nibble, hn]
  | some n => exact (h (isDigit_iff.2 ⟨n, hn⟩)).elim

theorem Spells.length_eq (h : Spells cs bytes) : cs.length = 2 * bytes.length := by
  induction h with
  | nil => rfl
  | cons high low rest ih =>
    simp only [List.length_cons, ih]
    omega

theorem Spells.exists_digit (h : Spells cs bytes) : ∀ c ∈ cs, ∃ n, Digit c n := by
  induction h with
  | nil => exact List.forall_mem_nil _
  | cons high low rest ih =>
    exact List.forall_mem_cons.2 ⟨⟨_, high⟩, List.forall_mem_cons.2 ⟨⟨_, low⟩, ih⟩⟩

/-- Two spellings of the same bytes differ in the case of letters only. -/
theorem Spells.toLower (h : Spells cs bytes) : cs.map Char.toLower = encodeChars bytes := by
  induction h with
  | nil => rfl
  | @cons c n d m cs bytes high low rest ih =>
    have hn := high.lt
    have hm := low.lt
    have hv : (UInt8.ofNat (16 * n + m)).toNat = 16 * n + m :=
      UInt8.toNat_ofNat_of_lt (show 16 * n + m < 256 by omega)
    have hq : (16 * n + m) / 16 = n := by omega
    have hr : (16 * n + m) % 16 = m := by omega
    rw [encodeChars, List.flatMap_cons, ← encodeChars, ← ih, hv, hq, hr, List.map_cons,
      List.map_cons, high.toLower, low.toLower]
    rfl

theorem digit_digitChar (h : n < 16) : Digit (digitChar n) n := by
  have hall : ∀ i : Fin 16, Digit (digitChar i) i := by decide
  exact hall ⟨n, h⟩

theorem spells_encodeChars (bytes : Bytes) : Spells (encodeChars bytes) bytes := by
  induction bytes with
  | nil => exact .nil
  | cons x bytes ih =>
    have hx := x.toNat_lt
    have hh : x.toNat / 16 < 16 := by omega
    have hl : x.toNat % 16 < 16 := by omega
    have hsum : 16 * (x.toNat / 16) + x.toNat % 16 = x.toNat := by omega
    have hs := Spells.cons (digit_digitChar hh) (digit_digitChar hl) ih
    rw [hsum, UInt8.ofNat_toNat] at hs
    exact hs

theorem exists_spells (h : ∀ c ∈ cs, ∃ n, Digit c n) (he : cs.length % 2 = 0) :
    ∃ bytes, Spells cs bytes := by
  induction cs using List.twoStepInduction with
  | nil => exact ⟨[], .nil⟩
  | singleton c => cases he
  | cons_cons c d cs ih _ =>
    simp only [List.forall_mem_cons] at h
    obtain ⟨⟨n, hc⟩, ⟨m, hd⟩, hcs⟩ := h
    have he' : cs.length % 2 = 0 := by
      simp only [List.length_cons] at he
      omega
    obtain ⟨bytes, hb⟩ := ih hcs he'
    exact ⟨_, .cons hc hd hb⟩

theorem pairs_of_spells (h : Spells cs bytes) (index : Nat) :
    pairs index (cs.map fun c => UInt8.ofNat c.toNat) = .ok bytes := by
  induction h generalizing index with
  | nil => rfl
  | cons high low rest ih =>
    simp only [List.map_cons, pairs, nibble_of_some high.nibble?, nibble_of_some low.nibble?, ih,
      bind, Except.bind]
    rfl

/-- The first bad digit is reported, if pairs are read to their end. -/
theorem pairs_of_bad (h : ∀ x ∈ before, IsDigit x) (hb : ¬ IsDigit b)
    (he : (before ++ b :: after).length % 2 = 0) (index : Nat) :
    pairs index (before ++ b :: after) = .error (.badDigit b (index + before.length)) := by
  induction before using List.twoStepInduction generalizing index with
  | nil =>
    cases after with
    | nil => cases he
    | cons x after =>
      simp only [List.nil_append, pairs, nibble_of_not_digit hb, bind, Except.bind]
      rfl
  | singleton x =>
    obtain ⟨n, hn⟩ := isDigit_iff.1 (h x List.mem_cons_self)
    simp only [List.cons_append, List.nil_append, pairs, nibble_of_some hn,
      nibble_of_not_digit hb, bind, Except.bind]
    rfl
  | cons_cons x y before ih _ =>
    simp only [List.forall_mem_cons] at h
    obtain ⟨hx, hy, h⟩ := h
    obtain ⟨n, hn⟩ := isDigit_iff.1 hx
    obtain ⟨m, hm⟩ := isDigit_iff.1 hy
    have he' : (before ++ b :: after).length % 2 = 0 := by
      simp only [List.cons_append, List.length_cons] at he
      omega
    simp only [List.cons_append, pairs, nibble_of_some hn, nibble_of_some hm, ih h he', bind,
      Except.bind, List.length_cons]
    rw [Nat.add_right_comm]
    rfl

/-- Bytes are digits up to the first one that is not. -/
theorem digits_or_first_bad (bytes : Bytes) :
    (∀ b ∈ bytes, IsDigit b) ∨
      ∃ before b after, bytes = before ++ b :: after ∧ (∀ x ∈ before, IsDigit x) ∧ ¬ IsDigit b := by
  induction bytes with
  | nil => exact .inl (List.forall_mem_nil _)
  | cons x bytes ih =>
    by_cases hx : IsDigit x
    · rcases ih with hall | ⟨before, b, after, rfl, hb, hn⟩
      · exact .inl (List.forall_mem_cons.2 ⟨hx, hall⟩)
      · exact .inr ⟨x :: before, b, after, rfl, List.forall_mem_cons.2 ⟨hx, hb⟩, hn⟩
    · exact .inr ⟨[], x, bytes, rfl, List.forall_mem_nil _, hx⟩

section
variable {s : String}

theorem decode_of_odd (h : (Utf8.encode s).length % 2 = 1) : decode s = .error .oddLength := by
  rw [decode, decodeBytes, if_pos h]

theorem decode_of_bad (he : (Utf8.encode s).length % 2 = 0)
    (hs : Utf8.encode s = before ++ b :: after) (h : ∀ x ∈ before, IsDigit x)
    (hb : ¬ IsDigit b) : decode s = .error (.badDigit b before.length) := by
  rw [decode, decodeBytes, if_neg (by omega), hs]
  rw [hs] at he
  rw [pairs_of_bad h hb he, Nat.zero_add]

/-- A text of digits, in pairs, spells bytes. -/
theorem exists_spells_of_digits (he : (Utf8.encode (String.ofList cs)).length % 2 = 0)
    (h : ∀ b ∈ Utf8.encode (String.ofList cs), IsDigit b) : ∃ bytes, Spells cs bytes := by
  have ha := Utf8.toNat_lt_of_encode fun b hb => (h b hb).lt
  rw [Utf8.encode_ofList ha] at h he
  rw [List.length_map] at he
  refine exists_spells (fun c hc => ?_) he
  have hn := isDigit_iff.1 (h _ (List.mem_map.2 ⟨c, hc, rfl⟩))
  obtain ⟨n, hn⟩ := hn
  refine ⟨n, ?_⟩
  have hd := (digit_of_nibble? hn).1
  rwa [Utf8.ofNat_toNat (ha c hc)] at hd

theorem Spells.encode_eq (h : Spells cs bytes) :
    Utf8.encode (String.ofList cs) = cs.map fun c => UInt8.ofNat c.toNat := by
  refine Utf8.encode_ofList fun c hc => ?_
  obtain ⟨n, hd⟩ := h.exists_digit c hc
  exact hd.toNat_lt

theorem Spells.length_encode (h : Spells cs bytes) :
    (Utf8.encode (String.ofList cs)).length = 2 * bytes.length := by
  rw [h.encode_eq, List.length_map, h.length_eq]

theorem decode_of_spells (h : Spells cs bytes) : decode (String.ofList cs) = .ok bytes := by
  rw [decode, decodeBytes, if_neg (by rw [h.length_encode]; omega), h.encode_eq]
  exact pairs_of_spells h 0

theorem decode_eq_ok_iff : decode (String.ofList cs) = .ok bytes ↔ Spells cs bytes := by
  refine ⟨fun h => ?_, decode_of_spells⟩
  rcases Nat.mod_two_eq_zero_or_one (Utf8.encode (String.ofList cs)).length with he | ho
  · rcases digits_or_first_bad (Utf8.encode (String.ofList cs)) with hd | ⟨_, _, _, hs, hd, hb⟩
    · obtain ⟨bytes', hs⟩ := exists_spells_of_digits he hd
      rw [decode_of_spells hs] at h
      cases h
      exact hs
    · rw [decode_of_bad he hs hd hb] at h
      cases h
  · rw [decode_of_odd ho] at h
    cases h

end

end TokenGate.Hex
