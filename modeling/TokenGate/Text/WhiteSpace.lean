/-!
White space as Unicode's property `White_Space` has it, and trimming by that property.
-/
namespace TokenGate.Text

/-- Characters with the property `White_Space`. -/
def isWhiteSpace (c : Char) : Bool :=
  let n := c.toNat
  (9 ≤ n && n ≤ 13) || n == 0x20 || n == 0x85 || n == 0xA0 || n == 0x1680 ||
    (0x2000 ≤ n && n ≤ 0x200A) || n == 0x2028 || n == 0x2029 || n == 0x202F ||
    n == 0x205F || n == 0x3000

/-- Drops the characters of a class from both ends. -/
def strip (p : Char → Bool) (cs : List Char) : List Char :=
  ((cs.dropWhile p).reverse.dropWhile p).reverse

theorem strip_eq_self {p : Char → Bool} (h : ∀ c ∈ cs, p c = false) : strip p cs = cs := by
  have hd {cs : List Char} (h : ∀ c ∈ cs, p c = false) : cs.dropWhile p = cs := by
    cases cs with
    | nil => rfl
    | cons c cs =>
      apply List.dropWhile_cons_of_neg
      rw [h c List.mem_cons_self]
      exact Bool.false_ne_true
  rw [strip, hd h, hd, List.reverse_reverse]
  intro c hc
  exact h c (List.mem_reverse.1 hc)

end TokenGate.Text
