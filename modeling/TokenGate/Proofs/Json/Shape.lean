import Mathlib.Data.List.DropRight
import TokenGate.Proofs.Json.RoundTrip
/-!
The shape of what is read. Whatever a text looks like, the objects in its value have their members
in order, and lists and objects nest no deeper than they may.
-/
namespace TokenGate.Json

/-- Values without floating-point numbers. -/
inductive Whole : Json → Prop where
  | null : Whole .null
  | bool : Whole (.bool b)
  | int : Whole (.num (.int i hi))
  | str : Whole (.str s)
  | arr (h : ∀ j ∈ items, Whole j) : Whole (.arr items)
  | obj (h : ∀ m ∈ members, Whole m.2) : Whole (.obj members)

/-- Some characters are read as a value. -/
def IsRead (item : List Char → Except Fault (Json × List Char)) (j : Json) : Prop :=
  ∃ cs rest, item cs = .ok (j, rest)

variable {item : List Char → Except Fault (Json × List Char)}

theorem isRead_of_mem_items (h : readItems item fuel first cs = .ok (xs, rest)) (hx : x ∈ xs) :
    IsRead item x := by
  induction fuel generalizing first cs xs with
  | zero => cases h
  | succ fuel ih =>
    obtain ⟨⟨more, cs₁⟩, -, h⟩ := bind_eq_ok.1 h
    cases more with
    | false =>
      cases h
      cases hx
    | true =>
      obtain ⟨⟨y, cs₂⟩, hy, h⟩ := bind_eq_ok.1 h
      obtain ⟨⟨ys, cs₃⟩, ht, h⟩ := bind_eq_ok.1 h
      cases h
      rcases List.mem_cons.1 hx with rfl | hx
      · exact ⟨cs₁, cs₂, hy⟩
      · exact ih ht hx

theorem isRead_of_mem_members (h : readMembers item fuel first cs = .ok (ms, rest))
    (hm : m ∈ ms) : IsRead item m.2 := by
  induction fuel generalizing first cs ms with
  | zero => cases h
  | succ fuel ih =>
    obtain ⟨⟨more, cs₁⟩, -, h⟩ := bind_eq_ok.1 h
    cases more with
    | false =>
      cases h
      cases hm
    | true =>
      obtain ⟨⟨k, cs₂⟩, -, h⟩ := bind_eq_ok.1 h
      obtain ⟨cs₃, -, h⟩ := bind_eq_ok.1 h
      obtain ⟨⟨v, cs₄⟩, hv, h⟩ := bind_eq_ok.1 h
      obtain ⟨⟨ms', cs₅⟩, ht, h⟩ := bind_eq_ok.1 h
      cases h
      rcases List.mem_cons.1 hm with rfl | hm
      · exact ⟨cs₃, cs₄, hv⟩
      · exact ih ht hm

/-- What is read with something inside it is plain, one level deeper, if what is read inside it
is. -/
theorem plain_of_gives {nested : Option (List Char → Except Fault (Json × List Char))}
    (hi : ∀ item, nested = some item →
      ∃ m, n = m + 1 ∧ ∀ j, IsRead item j → Whole j → Plain m j)
    (h : Gives nested cs rest j) (hw : Whole j) : Plain n j := by
  cases hw with
  | null => exact .null
  | bool => exact .bool
  | int => exact .int
  | str => exact .str
  | arr hw =>
    cases h with
    | arr hn hc hr =>
      obtain ⟨m, rfl, hm⟩ := hi _ hn
      apply Plain.arr
      intro x hx
      exact hm x (isRead_of_mem_items hr hx) (hw x hx)
  | obj hw =>
    cases h with
    | obj hn hc hr =>
      obtain ⟨m, rfl, hm⟩ := hi _ hn
      apply Plain.obj (ascending_sortMembers _)
      intro x hx
      exact hm x.2 (isRead_of_mem_members hr (mem_of_mem_sortMembers hx)) (hw x hx)

theorem plain_of_isRead (h : IsRead (readValue n) j) (hw : Whole j) : Plain n j := by
  induction n generalizing j with
  | zero =>
    obtain ⟨cs, rest, h⟩ := h
    apply plain_of_gives ?_ (gives_of_readWith h) hw
    intro item hn
    cases hn
  | succ n ih =>
    obtain ⟨cs, rest, h⟩ := h
    apply plain_of_gives ?_ (gives_of_readWith h) hw
    intro item hn
    cases hn
    exact ⟨n, rfl, fun j => ih⟩

theorem skipBlanks_skipBlanks (cs : List Char) : skipBlanks (skipBlanks cs) = skipBlanks cs :=
  List.dropWhile_idempotent _ cs

theorem begins_of_readValue_null (h : readValue n (skipBlanks cs) = .ok (.null, rest)) :
    ∃ cs', skipBlanks cs = 'n' :: cs' := by
  obtain ⟨nested, he⟩ := exists_readWith n
  rw [he] at h
  cases gives_of_readWith h with
  | null hc => exact ⟨_, skipBlanks_skipBlanks cs ▸ hc⟩

end TokenGate.Json
