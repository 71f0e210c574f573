import Mathlib.Data.List.TakeWhile
import TokenGate.Proofs.Basic
import TokenGate.Text.WhiteSpace
/-!
What is left of a text when the characters of a class are dropped from both its ends.
-/
namespace TokenGate.Text

/-- A text has characters of a class, and nothing else, around a core that neither begins nor ends
with one. -/
structure Stripped (p : Char → Bool) (cs core : List Char) : Prop where
  around : ∃ front back, cs = front ++ core ++ back ∧ (∀ c ∈ front, p c) ∧ ∀ c ∈ back, p c
  head : ∀ c ∈ core.head?, p c = false
  last : ∀ c ∈ core.getLast?, p c = false

variable {p q : Char → Bool} {cs core front back : List Char}

theorem eq_false_of_mem_dropWhile (h : c ∈ (cs.dropWhile p).head?) : p c = false := by
  have hd := List.head?_dropWhile_not p cs
  rw [Option.mem_def.1 h] at hd
  exact hd

theorem stripped_strip (p : Char → Bool) (cs : List Char) : Stripped p cs (strip p cs) := by
  have hfront : cs.takeWhile p ++ cs.dropWhile p = cs := List.takeWhile_append_dropWhile
  generalize hd : cs.dropWhile p = rest at hfront
  have hback : rest.reverse.takeWhile p ++ rest.reverse.dropWhile p = rest.reverse :=
    List.takeWhile_append_dropWhile
  have hrest : strip p cs ++ (rest.reverse.takeWhile p).reverse = rest := by
    rw [strip, hd, ← List.reverse_append, hback, List.reverse_reverse]
  refine ⟨⟨cs.takeWhile p, (rest.reverse.takeWhile p).reverse, ?_, ?_, ?_⟩, ?_, ?_⟩
  · rw [List.append_assoc, hrest, hfront]
  · exact fun c hc => List.mem_takeWhile_imp hc
  · exact fun c hc => List.mem_takeWhile_imp (List.mem_reverse.1 hc)
  · intro c hc
    have hc' : c ∈ (cs.dropWhile p).head? := by
      rw [hd, ← hrest, List.head?_append, Option.mem_def.1 hc]
      rfl
    exact eq_false_of_mem_dropWhile hc'
  · intro c hc
    rw [strip, List.getLast?_reverse] at hc
    exact eq_false_of_mem_dropWhile hc

theorem strip_of_forall (h : ∀ c ∈ cs, p c) : strip p cs = [] := by
  rw [strip, List.dropWhile_eq_nil_iff.2 h]
  rfl

theorem Stripped.strip_eq (h : Stripped p cs core) : strip p cs = core := by
  obtain ⟨⟨front, back, rfl, hf, hb⟩, hh, hl⟩ := h
  cases core with
  | nil =>
    apply strip_of_forall
    simp only [List.append_nil, List.forall_mem_append]
    exact ⟨hf, hb⟩
  | cons c core =>
    have hd : (front ++ (c :: core ++ back)).dropWhile p = c :: core ++ back := by
      refine (span_append hf ?_).2
      exact hh
    have hr : (back.reverse ++ (c :: core).reverse).dropWhile p = (c :: core).reverse := by
      refine (span_append (fun c hc => hb c (List.mem_reverse.1 hc)) ?_).2
      rwa [List.head?_reverse]
    rw [strip, List.append_assoc, hd, List.reverse_append, hr, List.reverse_reverse]

theorem strip_eq_iff : strip p cs = core ↔ Stripped p cs core := by
  constructor
  · rintro rfl
    exact stripped_strip p cs
  · exact Stripped.strip_eq

theorem Stripped.unique (h : Stripped p cs core) (h' : Stripped p cs core') : core = core' :=
  h.strip_eq.symm.trans h'.strip_eq

/-- What is added at the ends is dropped from them. -/
theorem Stripped.pad (h : Stripped p cs core) (hf : ∀ c ∈ front, p c) (hb : ∀ c ∈ back, p c) :
    Stripped p (front ++ cs ++ back) core := by
  obtain ⟨⟨front', back', rfl, hf', hb'⟩, hh, hl⟩ := h
  refine ⟨⟨front ++ front', back' ++ back, by simp only [List.append_assoc], ?_, ?_⟩, hh, hl⟩
  · exact List.forall_mem_append.2 ⟨hf, hf'⟩
  · exact List.forall_mem_append.2 ⟨hb', hb⟩

theorem Stripped.mem (h : Stripped p cs core) (hc : c ∈ core) : c ∈ cs := by
  obtain ⟨⟨front, back, rfl, -, -⟩, -, -⟩ := h
  exact List.mem_append_left _ (List.mem_append_right _ hc)

theorem Stripped.congr (h : Stripped p cs core) (he : ∀ c ∈ cs, p c = q c) :
    Stripped q cs core := by
  have hcore (c) (hc : c ∈ core) : p c = q c := he c (h.mem hc)
  obtain ⟨⟨front, back, rfl, hf, hb⟩, hh, hl⟩ := h
  simp only [List.forall_mem_append] at he
  refine ⟨⟨front, back, rfl, ?_, ?_⟩, ?_, ?_⟩
  · exact fun c hc => (he.1.1 c hc) ▸ hf c hc
  · exact fun c hc => (he.2 c hc) ▸ hb c hc
  · exact fun c hc => (hcore c (List.mem_of_mem_head? hc)) ▸ hh c hc
  · exact fun c hc => (hcore c (List.mem_of_mem_getLast? hc)) ▸ hl c hc

/-- Nothing is left exactly if there is nothing but characters of the class. -/
theorem Stripped.eq_nil_iff (h : Stripped p cs core) : core = [] ↔ ∀ c ∈ cs, p c := by
  constructor
  · rintro rfl
    obtain ⟨⟨front, back, rfl, hf, hb⟩, -, -⟩ := h
    rw [List.append_nil]
    exact List.forall_mem_append.2 ⟨hf, hb⟩
  · intro hall
    rw [← h.strip_eq]
    exact strip_of_forall hall

end TokenGate.Text
