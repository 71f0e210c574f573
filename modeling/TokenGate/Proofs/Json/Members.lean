import TokenGate.Json.Basic
import TokenGate.Proofs.Basic
/-!
Members of objects in order of their keys. Sorting keeps, for every key, the value that comes last,
and members in order are determined by the values that they give to keys.
-/
namespace TokenGate.Json

/-- Keys in strict order, so that none of them occurs twice. -/
def Ascending (members : List (String × Json)) : Prop :=
  members.Pairwise fun a b => a.1 < b.1

/-- The value that counts where a key may have several. -/
def lastValue (key : String) (members : List (String × Json)) : Option Json :=
  members.reverse.lookup key

theorem lastValue_cons (key k : String) (v : Json) (ms : List (String × Json)) :
    lastValue key ((k, v) :: ms) =
      (lastValue key ms).or (if key = k then some v else none) := by
  rw [lastValue, List.reverse_cons, List.lookup_append, lookup_cons]
  rfl

theorem lookup_putMember (key k : String) (v : Json) (ms : List (String × Json)) :
    (putMember k v ms).lookup key = if key = k then some v else ms.lookup key := by
  fun_induction putMember k v ms with
  | case1 => rw [lookup_cons]
  | case2 k' v' rest hlt => rw [lookup_cons]
  | case3 v' rest hlt =>
    rw [lookup_cons, lookup_cons]
    split <;> rfl
  | case4 k' v' rest hlt hne ih =>
    rw [lookup_cons, lookup_cons, ih]
    by_cases h : key = k
    · subst h
      simp [hne]
    · simp [h]

theorem sortMembers_eq (ms : List (String × Json)) :
    sortMembers ms = ms.foldl (fun sorted m => putMember m.1 m.2 sorted) [] := rfl

theorem lookup_sortMembers (key : String) (ms : List (String × Json)) :
    (sortMembers ms).lookup key = lastValue key ms := by
  have hfold (acc : List (String × Json)) :
      (ms.foldl (fun sorted m => putMember m.1 m.2 sorted) acc).lookup key =
        (lastValue key ms).or (acc.lookup key) := by
    induction ms generalizing acc with
    | nil => rfl
    | cons m ms ih =>
      rw [List.foldl_cons, ih, lookup_putMember, lastValue_cons, Option.or_assoc]
      split <;> rfl
  rw [sortMembers_eq, hfold]
  exact Option.or_none

theorem mem_putMember (h : m ∈ putMember k v ms) : m = (k, v) ∨ m ∈ ms := by
  fun_induction putMember k v ms with
  | case1 => exact .inl (List.mem_singleton.1 h)
  | case2 => exact List.mem_cons.1 h
  | case3 =>
    rcases List.mem_cons.1 h with h | h
    · exact .inl h
    · exact .inr (List.mem_cons_of_mem _ h)
  | case4 k' v' rest hlt hne ih =>
    rcases List.mem_cons.1 h with h | h
    · exact .inr (h ▸ List.mem_cons_self)
    · exact (ih h).imp_right (List.mem_cons_of_mem _)

theorem mem_of_mem_sortMembers : m ∈ sortMembers ms → m ∈ ms := by
  have hfold (acc : List (String × Json)) :
      m ∈ ms.foldl (fun sorted m => putMember m.1 m.2 sorted) acc → m ∈ acc ∨ m ∈ ms := by
    induction ms generalizing acc with
    | nil => exact .inl
    | cons m' ms ih =>
      intro h
      rcases ih _ h with h | h
      · rcases mem_putMember h with rfl | h
        · exact .inr List.mem_cons_self
        · exact .inl h
      · exact .inr (List.mem_cons_of_mem _ h)
  intro h
  exact (hfold [] h).resolve_left List.not_mem_nil

theorem lt_of_not_lt_of_ne {a b : String} (h : ¬ a < b) (hne : a ≠ b) : b < a :=
  Std.lt_of_le_of_ne (Std.not_lt.1 h) hne.symm

theorem Ascending.put (h : Ascending ms) (k : String) (v : Json) :
    Ascending (putMember k v ms) := by
  fun_induction putMember k v ms with
  | case1 => exact List.pairwise_singleton _ _
  | case2 k' v' rest hlt =>
    refine List.pairwise_cons.2 ⟨?_, h⟩
    intro m hm
    rcases List.mem_cons.1 hm with hm | hm
    · exact hm ▸ hlt
    · exact String.lt_trans hlt (List.rel_of_pairwise_cons h hm)
  | case3 v' rest hlt =>
    exact List.pairwise_cons.2 ⟨fun m hm => List.rel_of_pairwise_cons h hm, h.of_cons⟩
  | case4 k' v' rest hlt hne ih =>
    refine List.pairwise_cons.2 ⟨?_, ih h.of_cons⟩
    intro m hm
    rcases mem_putMember hm with hm | hm
    · exact hm ▸ lt_of_not_lt_of_ne hlt hne
    · exact List.rel_of_pairwise_cons h hm

theorem ascending_sortMembers (ms : List (String × Json)) : Ascending (sortMembers ms) := by
  have hfold (acc : List (String × Json)) (h : Ascending acc) :
      Ascending (ms.foldl (fun sorted m => putMember m.1 m.2 sorted) acc) := by
    induction ms generalizing acc with
    | nil => exact h
    | cons m ms ih => exact ih _ (h.put _ _)
  rw [sortMembers_eq]
  exact hfold [] List.Pairwise.nil

theorem Ascending.lookup_tail (h : Ascending ((k, v) :: ms)) : ms.lookup k = none := by
  rw [List.lookup_eq_none_iff]
  intro m hm
  have hlt : k < m.1 := List.rel_of_pairwise_cons h hm
  apply bne_iff_ne.2
  intro he
  rw [he] at hlt
  exact String.lt_irrefl _ hlt

theorem Ascending.le_of_lookup (h : Ascending ((k, v) :: ms)) (hk : ms.lookup key = some j) :
    k < key := by
  obtain ⟨before, after, rfl, -⟩ := List.lookup_eq_some_iff.1 hk
  have hmem : (key, j) ∈ before ++ (key, j) :: after := by simp
  exact List.rel_of_pairwise_cons h hmem

/-- Members in order that give the same values to all keys are the same. -/
theorem Ascending.ext (ha : Ascending as) (hb : Ascending bs)
    (h : ∀ key, as.lookup key = bs.lookup key) : as = bs := by
  induction as generalizing bs with
  | nil =>
    cases bs with
    | nil => rfl
    | cons b bs => simpa [lookup_cons b.1 b.1 b.2 bs] using h b.1
  | cons a as ih =>
    cases bs with
    | nil => simpa [lookup_cons a.1 a.1 a.2 as] using h a.1
    | cons b bs =>
      obtain ⟨k, v⟩ := a
      obtain ⟨k', v'⟩ := b
      have hk : k = k' := by
        have h₁ := h k
        have h₂ := h k'
        simp only [lookup_cons, ↓reduceIte] at h₁ h₂
        by_cases he : k = k'
        · exact he
        · rw [if_neg he] at h₁
          rw [if_neg (Ne.symm he)] at h₂
          exact (String.lt_asymm (hb.le_of_lookup h₁.symm) (ha.le_of_lookup h₂)).elim
      subst hk
      have hv : v = v' := by simpa [lookup_cons] using h k
      subst hv
      have ht : as = bs := by
        apply ih ha.of_cons hb.of_cons
        intro key
        by_cases he : key = k
        · rw [he, ha.lookup_tail, hb.lookup_tail]
        · simpa [lookup_cons, he] using h key
      rw [ht]

theorem Ascending.lastValue (h : Ascending ms) (key : String) :
    lastValue key ms = ms.lookup key := by
  induction ms with
  | nil => rfl
  | cons m ms ih =>
    rw [lastValue_cons, ih h.of_cons, lookup_cons]
    split
    · next he => rw [he, h.lookup_tail, Option.none_or]
    · exact Option.or_none

theorem Ascending.sort (h : Ascending ms) : sortMembers ms = ms := by
  apply (ascending_sortMembers ms).ext h
  intro key
  rw [lookup_sortMembers, h.lastValue]

end TokenGate.Json
