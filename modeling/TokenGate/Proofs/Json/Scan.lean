import TokenGate.Json.Printer
import TokenGate.Json.Scan
import TokenGate.Proofs.Text.Decimal
/-!
Strings and whole numbers are read back from their texts.
-/
namespace TokenGate.Json

/-- Characters that a number in front of them would take in. -/
def continuesNumber (c : Char) : Bool := c.isDigit || c = '.' || c = 'e' || c = 'E'

/-- Characters in front of which a number ends. -/
def EndsNumber (cs : List Char) : Prop := ∀ c ∈ cs.head?, continuesNumber c = false

theorem EndsNumber.not_digit (h : EndsNumber cs) : startsWithDigit cs = false := by
  cases cs with
  | nil => rfl
  | cons c cs =>
    have hc := h c rfl
    simp only [continuesNumber, Bool.or_eq_false_iff] at hc
    exact hc.1.1.1

theorem le_ofDigitChars (cs : List Char) (n : Nat) : n ≤ Nat.ofDigitChars 10 cs n := by
  induction cs generalizing n with
  | nil => exact Nat.le_refl n
  | cons c cs ih =>
    rw [Nat.ofDigitChars_cons]
    exact Nat.le_trans (by omega) (ih _)

theorem accumulate_digits (hd : ∀ c ∈ ds, c.isDigit) (hr : startsWithDigit rest = false)
    (hn : Nat.ofDigitChars 10 ds n < 0x1_0000_0000_0000_0000) (count : Nat) :
    accumulate n count (ds ++ rest) =
      (Nat.ofDigitChars 10 ds n, count + ds.length, rest) := by
  induction ds generalizing n count with
  | nil =>
    cases rest with
    | nil => rfl
    | cons c rest =>
      have hc : c.isDigit = false := hr
      simp [accumulate, hc]
  | cons d ds ih =>
    have hv : n * 10 + Text.digitValue d = 10 * n + (d.toNat - '0'.toNat) := by
      rw [Nat.mul_comm]
      rfl
    rw [Nat.ofDigitChars_cons] at hn ⊢
    have hlt := Nat.lt_of_le_of_lt (le_ofDigitChars _ _) hn
    have hdig : d.isDigit := hd d List.mem_cons_self
    simp only [List.cons_append, accumulate, hv, hdig, hlt, true_and, ↓reduceIte]
    rw [ih (fun c hc => hd c (List.mem_cons_of_mem _ hc)) hn, List.length_cons]
    congr 2
    omega

theorem afterDigits_of_endsNumber (h : EndsNumber cs) (negative : Bool) (n : Nat) :
    afterDigits negative n cs = wholeNumber negative n cs := by
  have hd := h.not_digit
  unfold afterDigits
  split
  · exact absurd (h '.' rfl) (by decide)
  · exact absurd (h 'e' rfl) (by decide)
  · exact absurd (h 'E' rfl) (by decide)
  · rw [hd]
    rfl

theorem exists_digits_of_ne_zero (h : n ≠ 0) : ∃ d ds, Text.digits n = d :: ds ∧ d ≠ '0' := by
  induction n using Nat.strongRecOn with
  | ind n ih =>
    rw [Text.digits, Nat.toDigits_eq_if (by decide)]
    split
    · next hlt =>
      refine ⟨_, _, rfl, ?_⟩
      have hall : ∀ i : Fin 10, i.val ≠ 0 → Nat.digitChar i.val ≠ '0' := by decide
      exact hall ⟨n, hlt⟩ h
    · next hge =>
      obtain ⟨d, ds, hds, hd⟩ := ih (n / 10) (by omega) (by omega)
      rw [Text.digits] at hds
      exact ⟨d, _, by rw [hds]; rfl, hd⟩

theorem unsignedNumber_digits (hn : n < 0x1_0000_0000_0000_0000) (hr : EndsNumber rest)
    (negative : Bool) :
    unsignedNumber negative (Text.digits n ++ rest) = wholeNumber negative n rest := by
  by_cases h : n = 0
  · subst h
    have hz : Text.digits 0 = ['0'] := Nat.toDigits_zero 10
    rw [hz, List.singleton_append, unsignedNumber, hr.not_digit]
    exact afterDigits_of_endsNumber hr negative 0
  · obtain ⟨d, ds, hds, hd⟩ := exists_digits_of_ne_zero h
    have hall : ∀ c ∈ d :: ds, c.isDigit := fun c hc => Text.isDigit_of_mem_digits (hds ▸ hc)
    have hval : Nat.ofDigitChars 10 ds (Text.digitValue d) = n := by
      have hall := Nat.ofDigitChars_ten_toDigits (n := n)
      rwa [← Text.digits, hds, Nat.ofDigitChars_cons, Nat.mul_zero, Nat.zero_add] at hall
    have hacc := accumulate_digits (fun c hc => hall c (List.mem_cons_of_mem _ hc)) hr.not_digit
      (hval ▸ hn) 1
    rw [hds, List.cons_append, unsignedNumber]
    · simp only [hall d List.mem_cons_self, Bool.not_true, Bool.false_eq_true, ↓reduceIte, hacc]
      rw [afterDigits_of_endsNumber hr, hval]
    · exact hd

theorem Number.ofInt?_eq_some (i : Int)
    (hi : -0x8000_0000_0000_0000 ≤ i ∧ i < 0x1_0000_0000_0000_0000) :
    Number.ofInt? i = some (.int i hi) := dif_pos hi

theorem readNumber_decimalChars (i : Int)
    (hi : -0x8000_0000_0000_0000 ≤ i ∧ i < 0x1_0000_0000_0000_0000) (hr : EndsNumber rest) :
    readNumber (Text.decimalChars i ++ rest) = .ok (.int i hi, rest) := by
  have hn : i.natAbs < 0x1_0000_0000_0000_0000 := by omega
  by_cases h : i < 0
  · have hneg : -(i.natAbs : Int) = i := by omega
    have hne : i.natAbs ≠ 0 := by omega
    rw [Text.decimalChars, if_pos h, List.cons_append, readNumber, unsignedNumber_digits hn hr]
    simp only [wholeNumber, hne, and_false, ↓reduceIte, hneg, Number.ofInt?_eq_some i hi]
  · have hpos : (i.natAbs : Int) = i := by omega
    have hhead : ∀ cs, Text.digits i.natAbs ++ rest ≠ '-' :: cs := by
      intro cs he
      obtain ⟨d, ds, hds, hd⟩ := Text.exists_digits i.natAbs
      rw [hds] at he
      cases he
      exact absurd hd (by decide)
    rw [Text.decimalChars, if_neg h, readNumber, unsignedNumber_digits hn hr]
    · simp only [wholeNumber, Bool.false_eq_true, false_and, ↓reduceIte, hpos,
        Number.ofInt?_eq_some i hi]
    · exact hhead

/-- A control character is escaped with four digits that denote it. -/
theorem exists_hex4 (h : n < 0x20) :
    ∃ y z, List.replicate (4 - (Text.hexDigits n).length) '0' ++ Text.hexDigits n =
      ['0', '0', y, z] ∧ hex4? '0' '0' y z = some n := by
  have hall : ∀ i : Fin 0x20,
      List.replicate (4 - (Text.hexDigits i).length) '0' ++ Text.hexDigits i =
        ['0', '0', Nat.digitChar (i / 16), Nat.digitChar (i % 16)] ∧
      hex4? '0' '0' (Nat.digitChar (i / 16)) (Nat.digitChar (i % 16)) = some i.val := by
    decide +kernel
  exact ⟨_, _, hall ⟨n, h⟩⟩

theorem stringBody_escapedChar (c : Char) (cs : List Char) :
    stringBody (escapedChar c ++ cs) = push c (stringBody cs) := by
  unfold escapedChar
  split
  · next h => subst h; rfl
  split
  · next h => subst h; rfl
  split
  · next h => subst h; rfl
  split
  · next h => subst h; rfl
  split
  · next h => subst h; rfl
  split
  · next h => subst h; rfl
  split
  · next h => subst h; rfl
  split
  · next h =>
    obtain ⟨y, z, hyz, hhex⟩ := exists_hex4 h
    have ht : isTrailingSurrogate c.toNat = false := by
      rw [isTrailingSurrogate, decide_eq_false (by omega), Bool.false_and]
    have hl : isLeadingSurrogate c.toNat = false := by
      rw [isLeadingSurrogate, decide_eq_false (by omega), Bool.false_and]
    simp only [hyz, List.cons_append, List.nil_append, stringBody, hhex, ht, hl,
      Bool.false_eq_true, ↓reduceIte, Char.ofNat_toNat]
  · next hq hb _ _ _ _ _ hc =>
    rw [List.singleton_append, stringBody]
    · rw [if_neg hc]
    · exact hq
    all_goals
      intros
      exact hb ‹_›

theorem stringBody_flatMap (s rest : List Char) :
    stringBody (s.flatMap escapedChar ++ '"' :: rest) = .ok (s, rest) := by
  induction s with
  | nil => rfl
  | cons c s ih =>
    rw [List.flatMap_cons, List.append_assoc, stringBody_escapedChar, ih]
    rfl

theorem readString_stringChars (s : String) (rest : List Char) :
    readString (s.toList.flatMap escapedChar ++ '"' :: rest) = .ok (s, rest) := by
  rw [readString, stringBody_flatMap]
  simp only [Except.map, String.ofList_toList]

end TokenGate.Json
