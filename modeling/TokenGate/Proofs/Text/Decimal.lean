import TokenGate.Text.Decimal
import TokenGate.Text.WhiteSpace
/-!
Numbers are read back from their digits, none of which is white space.
-/
namespace TokenGate.Text

theorem isDigit_of_mem_digits (h : c ∈ digits n) : c.isDigit :=
  Nat.isDigit_of_mem_toDigits (by decide) (by decide) h

theorem exists_digits (n : Nat) : ∃ d ds, digits n = d :: ds ∧ d.isDigit := by
  obtain ⟨d, ds, h⟩ := List.exists_cons_of_ne_nil (Nat.toDigits_ne_nil (n := n) (b := 10))
  refine ⟨d, ds, h, isDigit_of_mem_digits (n := n) ?_⟩
  rw [digits, h]
  exact List.mem_cons_self

theorem ofDigits_digits (n : Nat) : ofDigits (digits n) = n :=
  Nat.ofDigitChars_ten_toDigits

theorem unsigned?_digits (h : n < bound) : unsigned? bound (String.ofList (digits n)) = some n := by
  obtain ⟨d, ds, hds, hd⟩ := exists_digits n
  have hall : (digits n).all Char.isDigit :=
    List.all_eq_true.2 fun c hc => isDigit_of_mem_digits hc
  have hne : digits n ≠ [] := by
    rw [hds]
    exact List.cons_ne_nil d ds
  rw [unsigned?, String.toList_ofList]
  split
  · next rest he =>
    rw [hds] at he
    cases he
    exact absurd hd (by decide)
  · rw [if_pos ⟨hne, hall, by rwa [ofDigits_digits]⟩, ofDigits_digits]

theorem toNat_of_isDigit {c : Char} (h : c.isDigit) : 48 ≤ c.toNat ∧ c.toNat ≤ 57 := by
  simpa [Char.isDigit, UInt32.le_iff_toNat_le] using h

theorem not_isWhiteSpace_of_isDigit (h : c.isDigit) : isWhiteSpace c = false := by
  have hn := toNat_of_isDigit h
  simp only [isWhiteSpace, Bool.or_eq_false_iff, Bool.and_eq_false_iff, decide_eq_false_iff_not,
    beq_eq_false_iff_ne]
  omega

end TokenGate.Text
