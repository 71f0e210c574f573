import Mathlib.Logic.Basic
/-!
Facts that no part of the gateway owns: about computations that may fail, runs of characters, and
lists of pairs in which keys are looked up.
-/
namespace TokenGate

theorem bind_eq_ok {x : Except ε α} {f : α → Except ε β} :
    x >>= f = .ok b ↔ ∃ a, x = .ok a ∧ f a = .ok b := by
  cases x with
  | error e => simp [bind, Except.bind]
  | ok a => simp [bind, Except.bind]

theorem mapError_eq_ok {x : Except ε α} {f : ε → ε'} : x.mapError f = .ok a ↔ x = .ok a := by
  cases x with
  | error e => exact ⟨nofun, nofun⟩
  | ok b =>
    constructor
    · intro h
      cases h
      rfl
    · intro h
      cases h
      rfl

/-- A check that comes first. -/
theorem ite_error_eq_ok {p : Prop} [Decidable p] {e : ε} {x : Except ε α} :
    (if p then .error e else x) = .ok a ↔ ¬ p ∧ x = .ok a := by
  split
  · next hp => exact ⟨nofun, fun h => absurd hp h.1⟩
  · next hp => exact ⟨fun h => ⟨hp, h⟩, fun h => h.2⟩

theorem exists_eq_ok {x : Except ε α} (h : x.isOk) : ∃ a, x = .ok a := by
  cases x with
  | error e => cases h
  | ok a => exact ⟨a, rfl⟩

theorem isSome_eq_of_rel {r : α → β → Prop} {a : Option α} {b : Option β} (h : Option.Rel r a b) :
    a.isSome = b.isSome := by
  cases h with
  | none => rfl
  | some h => rfl

theorem takeWhile_of_not_head {p : α → Bool} {cs : List α} (h : ∀ c ∈ cs.head?, p c = false) :
    cs.takeWhile p = [] ∧ cs.dropWhile p = cs := by
  cases cs with
  | nil => exact ⟨rfl, rfl⟩
  | cons c cs =>
    have hc := h c rfl
    exact ⟨List.takeWhile_cons_of_neg (by simp [hc]), List.dropWhile_cons_of_neg (by simp [hc])⟩

/-- Where a run of characters ends. -/
theorem span_append {p : α → Bool} {run rest : List α} (hr : ∀ c ∈ run, p c = true)
    (h : ∀ c ∈ rest.head?, p c = false) :
    (run ++ rest).takeWhile p = run ∧ (run ++ rest).dropWhile p = rest := by
  obtain ⟨ht, hd⟩ := takeWhile_of_not_head h
  rw [List.takeWhile_append_of_pos hr, List.dropWhile_append_of_pos hr, ht, hd, List.append_nil]
  exact ⟨rfl, rfl⟩

section
variable {κ ν : Type} [DecidableEq κ]

theorem lookup_cons (key k : κ) (v : ν) (ps : List (κ × ν)) :
    ((k, v) :: ps).lookup key = if key = k then some v else ps.lookup key := by
  by_cases h : key = k
  · simp [h]
  · simp [List.lookup_cons, beq_eq_false_iff_ne.2 h, h]

theorem lookup_eq_none_iff {ps : List (κ × ν)} :
    ps.lookup key = none ↔ key ∉ ps.map Prod.fst := by
  simp only [List.lookup_eq_none_iff, List.mem_map, not_exists, not_and, bne_iff_ne]
  exact ⟨fun h p hp he => h p hp he.symm, fun h p hp he => h p hp he.symm⟩

theorem lookup_filter_ne (key name : κ) (ps : List (κ × ν)) :
    (ps.filter (·.1 ≠ name)).lookup key = if key = name then none else ps.lookup key := by
  induction ps with
  | nil => simp
  | cons p ps ih =>
    obtain ⟨k, v⟩ := p
    by_cases hk : k = name
    · subst hk
      rw [List.filter_cons_of_neg (by simp), ih, lookup_cons]
      split <;> simp [*]
    · rw [List.filter_cons_of_pos (by simp [hk]), lookup_cons, lookup_cons, ih]
      by_cases he : key = k
      · subst he
        simp [hk]
      · simp [he]

/-- Of pairs with different keys, exactly one has a key that is among them. -/
theorem length_filter_ne {ps : List (κ × ν)} (hd : (ps.map Prod.fst).Nodup)
    (hk : key ∈ ps.map Prod.fst) : (ps.filter (·.1 ≠ key)).length + 1 = ps.length := by
  induction ps with
  | nil => cases hk
  | cons p ps ih =>
    obtain ⟨hp, hd⟩ := List.nodup_cons.1 hd
    by_cases he : p.1 = key
    · subst he
      have hf : ps.filter (·.1 ≠ p.1) = ps := by
        rw [List.filter_eq_self]
        intro q hq
        simp only [ne_eq, decide_eq_true_eq]
        intro he
        exact hp (List.mem_map.2 ⟨q, hq, he⟩)
      rw [List.filter_cons_of_neg (by simp), hf, List.length_cons]
    · have hk := (List.mem_cons.1 hk).resolve_left fun h => he h.symm
      rw [List.filter_cons_of_pos (by simp [he]), List.length_cons, List.length_cons, ih hd hk]

end

end TokenGate
