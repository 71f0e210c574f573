import Mathlib.Data.List.TakeWhile
import TokenGate.Proofs.Json.Scan
/-!
The texts of numbers. A number is written with digits, then perhaps a point and digits, then perhaps
an exponent; whatever is read from such a text, nothing of it is left.
-/
namespace TokenGate.Json

inductive FractionText : List Char → Prop where
  | absent : FractionText []
  | point (hd : ∀ c ∈ ds, c.isDigit) : FractionText ('.' :: ds)

inductive ExponentText : List Char → Prop where
  | absent : ExponentText []
  | signed (hs : sign = '+' ∨ sign = '-') (hn : ds ≠ []) (hd : ∀ c ∈ ds, c.isDigit) :
      ExponentText ('e' :: sign :: ds)

/-- Texts of numbers without a sign. -/
def DecimalText (cs : List Char) : Prop :=
  ∃ ds f t, cs = ds ++ (f ++ t) ∧ ds ≠ [] ∧ (∀ c ∈ ds, c.isDigit) ∧ FractionText f ∧
    ExponentText t

theorem digits_ne_nil (n : Nat) : Text.digits n ≠ [] := Nat.toDigits_ne_nil

theorem isDigit_of_mem_replicate (h : c ∈ List.replicate n '0') : c.isDigit := by
  rw [List.eq_of_mem_replicate h]
  rfl

theorem decimalText_doubleChars (x : Binary64) : DecimalText (doubleChars x) := by
  have hd (n : Nat) : ∀ c ∈ Text.digits n, c.isDigit := fun c hc => Text.isDigit_of_mem_digits hc
  have hz (n : Nat) : ∀ c ∈ List.replicate n '0', c.isDigit := fun c hc =>
    isDigit_of_mem_replicate hc
  have h0 : ∀ c ∈ ['0'], c.isDigit := hz 1
  unfold doubleChars
  split
  · exact ⟨['0'], ['.', '0'], [], rfl, List.cons_ne_nil _ _, h0, .point h0, .absent⟩
  · generalize x.shortest = d
    simp only
    split
    · refine ⟨Text.digits d.digits ++ List.replicate d.exponent.toNat '0', ['.', '0'], [], by simp,
        List.append_ne_nil_of_left_ne_nil (digits_ne_nil _) _, ?_, .point h0, .absent⟩
      exact List.forall_mem_append.2 ⟨hd _, hz _⟩
    split
    · next hp =>
      refine ⟨_, '.' :: (Text.digits d.digits).drop _, [], by rw [List.append_nil], ?_,
        fun c hc => hd _ c (List.mem_of_mem_take hc),
        .point fun c hc => hd _ c (List.mem_of_mem_drop hc), .absent⟩
      rw [Ne, List.take_eq_nil_iff, not_or]
      exact ⟨by omega, digits_ne_nil _⟩
    split
    · refine ⟨['0'], _, [], by rw [List.append_nil]; rfl, List.cons_ne_nil _ _, h0, .point ?_,
        .absent⟩
      exact List.forall_mem_append.2 ⟨hz _, hd _⟩
    · refine ⟨(Text.digits d.digits).take 1, _, _, List.append_assoc _ _ _, ?_,
        fun c hc => hd _ c (List.mem_of_mem_take hc), ?_,
        .signed ?_ (digits_ne_nil _) (hd _)⟩
      · rw [Ne, List.take_eq_nil_iff, not_or]
        exact ⟨Nat.one_ne_zero, digits_ne_nil _⟩
      · split
        · exact .absent
        · exact .point fun c hc => hd _ c (List.mem_of_mem_drop hc)
      · split
        · exact .inr rfl
        · exact .inl rfl

theorem dropWhile_digits (hd : ∀ c ∈ ds, c.isDigit) (hr : startsWithDigit rest = false) :
    (ds ++ rest).dropWhile Char.isDigit = rest := by
  rw [List.dropWhile_append_of_pos hd]
  cases rest with
  | nil => rfl
  | cons c rest => exact List.dropWhile_cons_of_neg (by rw [show c.isDigit = false from hr]; decide)

theorem dropWhile_of_not_digit (h : startsWithDigit cs = false) :
    cs.dropWhile Char.isDigit = cs :=
  dropWhile_digits (fun _ hc => (List.not_mem_nil hc).elim) h

theorem startsWithDigit_cons_of_mem (hn : ds ≠ []) (hd : ∀ c ∈ ds, c.isDigit) (rest : List Char) :
    ∃ d ds', ds = d :: ds' ∧ d.isDigit ∧ startsWithDigit (ds ++ rest) = true := by
  obtain ⟨d, ds', rfl⟩ := List.exists_cons_of_ne_nil hn
  exact ⟨d, ds', rfl, hd d List.mem_cons_self, hd d List.mem_cons_self⟩

theorem ExponentText.not_digit (ht : ExponentText t) (hr : EndsNumber rest) :
    startsWithDigit (t ++ rest) = false := by
  cases ht with
  | absent => exact hr.not_digit
  | signed hs hn hd => rfl

theorem FractionText.not_digit (hf : FractionText f) (ht : ExponentText t) (hr : EndsNumber rest) :
    startsWithDigit (f ++ (t ++ rest)) = false := by
  cases hf with
  | absent => exact ht.not_digit hr
  | point hd => rfl

variable {negative : Bool} {significand : Nat} {shift exponent : Int} {x : Number}
  {rest rest' : List Char}

theorem double_rest (h : double negative significand exponent cs = .ok (x, rest)) :
    rest = cs := by
  unfold double at h
  split at h
  · cases h
    rfl
  · cases h

theorem exponentDigits_rest (n : Nat) (cs : List Char) :
    (exponentDigits n cs).2.dropWhile Char.isDigit = cs.dropWhile Char.isDigit ∧
      ((exponentDigits n cs).1.isSome → startsWithDigit (exponentDigits n cs).2 = false) := by
  fun_induction exponentDigits n cs with
  | case1 => exact ⟨rfl, fun _ => rfl⟩
  | case2 n c cs hc next hlt ih =>
    rw [List.dropWhile_cons_of_pos hc]
    exact ih
  | case3 n c cs hc next hlt =>
    rw [List.dropWhile_cons_of_pos hc]
    exact ⟨rfl, nofun⟩
  | case4 n c cs hc => exact ⟨rfl, fun _ => Bool.eq_false_iff.2 hc⟩

theorem exponentPart_rest (hs : sign = '+' ∨ sign = '-') (hn : ds ≠ [])
    (hd : ∀ c ∈ ds, c.isDigit) (hr : EndsNumber rest)
    (h : exponentPart negative significand shift (sign :: (ds ++ rest)) = .ok (x, rest')) :
    rest' = rest := by
  obtain ⟨d, ds, rfl, hdig, -⟩ := startsWithDigit_cons_of_mem hn hd rest
  have hdrop : (ds ++ rest).dropWhile Char.isDigit = rest :=
    dropWhile_digits (fun c hc => hd c (List.mem_cons_of_mem _ hc)) hr.not_digit
  obtain ⟨hrest, hsome⟩ := exponentDigits_rest (Text.digitValue d) (ds ++ rest)
  rw [hdrop] at hrest
  unfold exponentPart at h
  -- The sign decides only about the value, not about what is read.
  rcases hs with rfl | rfl
  all_goals
    simp only [List.cons_append, hdig, Bool.not_true, Bool.false_eq_true, ↓reduceIte] at h
    generalize exponentDigits (Text.digitValue d) (ds ++ rest) = r at h hrest hsome
    obtain ⟨_ | e, left⟩ := r
    · simp only at h
      split at h
      · cases h
      · cases h
        exact hrest
    · rw [double_rest h, ← hrest]
      exact (dropWhile_of_not_digit (hsome rfl)).symm

theorem afterFraction_rest (ht : ExponentText t) (hr : EndsNumber rest)
    (h : afterFraction negative significand exponent (t ++ rest) = .ok (x, rest')) :
    rest' = rest := by
  cases ht with
  | absent =>
    rw [List.nil_append] at h
    unfold afterFraction at h
    split at h
    · exact absurd (hr 'e' rfl) (by decide)
    · exact absurd (hr 'E' rfl) (by decide)
    · exact double_rest h
  | signed hs hn hd => exact exponentPart_rest hs hn hd hr h

theorem accumulate_rest (n count : Nat) (cs : List Char) :
    (accumulate n count cs).2.2.dropWhile Char.isDigit = cs.dropWhile Char.isDigit := by
  fun_induction accumulate n count cs with
  | case1 => rfl
  | case2 n count c cs next hc ih =>
    rw [List.dropWhile_cons_of_pos hc.1]
    exact ih
  | case3 => rfl

theorem fractionPart_rest (hd : ∀ c ∈ ds, c.isDigit) (ht : ExponentText t) (hr : EndsNumber rest)
    (h : fractionPart negative significand shift (ds ++ (t ++ rest)) = .ok (x, rest')) :
    rest' = rest := by
  have hrest := accumulate_rest significand 0 (ds ++ (t ++ rest))
  rw [dropWhile_digits hd (ht.not_digit hr)] at hrest
  unfold fractionPart at h
  generalize accumulate significand 0 (ds ++ (t ++ rest)) = r at h hrest
  obtain ⟨n, count, left⟩ := r
  simp only at h hrest
  split at h
  · rw [hrest] at h
    exact afterFraction_rest ht hr h
  · next hs =>
    rw [dropWhile_of_not_digit (Bool.eq_false_iff.2 hs)] at hrest
    subst hrest
    split at h
    · split at h
      · cases h
      · cases h
    · exact afterFraction_rest ht hr h

theorem wholeNumber_rest (h : wholeNumber negative significand cs = .ok (x, rest)) :
    rest = cs := by
  unfold wholeNumber at h
  split at h
  · exact double_rest h
  · split at h
    · cases h
      rfl
    · exact double_rest h

/-- Digits may be left that no longer count; they are passed over. -/
theorem afterDigits_rest (hd : ∀ c ∈ ds, c.isDigit) (hf : FractionText f) (ht : ExponentText t)
    (hr : EndsNumber rest)
    (h : afterDigits negative significand (ds ++ (f ++ (t ++ rest))) = .ok (x, rest')) :
    rest' = rest := by
  cases ds with
  | nil =>
    cases hf with
    | point hd => exact fractionPart_rest hd ht hr h
    | absent =>
      cases ht with
      | absent =>
        simp only [List.nil_append] at h
        rw [afterDigits_of_endsNumber hr] at h
        exact wholeNumber_rest h
      | signed hs hn hd => exact exponentPart_rest hs hn hd hr h
  | cons d ds =>
    have hdig : d.isDigit := hd d List.mem_cons_self
    have hdrop : (d :: ds ++ (f ++ (t ++ rest))).dropWhile Char.isDigit = f ++ (t ++ rest) :=
      dropWhile_digits hd (hf.not_digit ht hr)
    unfold afterDigits at h
    split at h
    · next he =>
      cases he
      exact absurd hdig (by decide)
    · next he =>
      cases he
      exact absurd hdig (by decide)
    · next he =>
      cases he
      exact absurd hdig (by decide)
    · have hs : startsWithDigit (d :: ds ++ (f ++ (t ++ rest))) = true := hdig
      rw [if_pos hs, hdrop] at h
      simp only at h
      cases hf with
      | point hd => exact fractionPart_rest hd ht hr h
      | absent =>
        split at h
        · next he =>
          cases ht with
          | absent =>
            simp only [List.nil_append] at he
            subst he
            exact absurd (hr '.' rfl) (by decide)
          | signed hs hn hd => cases he
        · exact afterFraction_rest ht hr h

theorem unsignedNumber_rest (hc : DecimalText cs) (hr : EndsNumber rest)
    (h : unsignedNumber negative (cs ++ rest) = .ok (x, rest')) : rest' = rest := by
  obtain ⟨ds, f, t, rfl, hn, hd, hf, ht⟩ := hc
  obtain ⟨d, ds, rfl, hdig, -⟩ := startsWithDigit_cons_of_mem hn hd rest
  have hds : ∀ c ∈ ds, c.isDigit := fun c hc => hd c (List.mem_cons_of_mem _ hc)
  simp only [List.cons_append, List.append_assoc] at h
  unfold unsignedNumber at h
  split at h
  · next he => cases he
  · next he =>
    cases he
    split at h
    · cases h
    · exact afterDigits_rest hds hf ht hr h
  · next he =>
    cases he
    have hrest := accumulate_rest (Text.digitValue d) 1 (ds ++ (f ++ (t ++ rest)))
    rw [dropWhile_digits hds (hf.not_digit ht hr)] at hrest
    rw [hdig] at h
    generalize accumulate (Text.digitValue d) 1 (ds ++ (f ++ (t ++ rest))) = r at h hrest
    obtain ⟨n, count, left⟩ := r
    simp only [Bool.not_true, Bool.false_eq_true, ↓reduceIte] at h hrest
    have hleft : left = left.takeWhile Char.isDigit ++ (f ++ (t ++ rest)) := by
      rw [← hrest, List.takeWhile_append_dropWhile]
    rw [hleft] at h
    exact afterDigits_rest (fun c hc => List.mem_takeWhile_imp hc) hf ht hr h

/-- Of the text of a number nothing is left behind what is read from it. -/
theorem readNumber_rest (hr : EndsNumber rest) (h : readNumber (x.chars ++ rest) = .ok (y, rest')) :
    rest' = rest := by
  cases x with
  | int i hi =>
    rw [Number.chars, readNumber_decimalChars i hi hr] at h
    cases h
    rfl
  | double x =>
    have ht := decimalText_doubleChars x
    rw [Number.chars] at h
    split at h
    · exact unsignedNumber_rest ht hr h
    · unfold readNumber at h
      split at h
      · next he =>
        obtain ⟨ds, f, t, hx, hn, hd, -⟩ := ht
        obtain ⟨d, ds, rfl, hdig, -⟩ := startsWithDigit_cons_of_mem hn hd rest
        rw [hx] at he
        cases he
        exact absurd hdig (by decide)
      · exact unsignedNumber_rest ht hr h

end TokenGate.Json
