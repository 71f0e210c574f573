import TokenGate.Json.Reader
import TokenGate.Proofs.Json.Object
import TokenGate.Proofs.Json.NumberText
/-!
Values without floating-point numbers are read back from their texts, as long as they do not nest
too deep. An object of which the members stand in any order is read with its members in order.
-/
namespace TokenGate.Json

/-- Values of whole numbers and of objects with their members in order, in which lists and objects
nest at most a number of times. -/
inductive Plain : Nat → Json → Prop where
  | null : Plain n .null
  | bool : Plain n (.bool b)
  | int : Plain n (.num (.int i hi))
  | str : Plain n (.str s)
  | arr (h : ∀ j ∈ items, Plain n j) : Plain (n + 1) (.arr items)
  | obj (ha : Ascending members) (h : ∀ m ∈ members, Plain n m.2) : Plain (n + 1) (.obj members)

/-- Characters that a value in a list may begin with. -/
def opensValue (c : Char) : Bool := !isBlank c && c ≠ ']' && c ≠ ','

theorem opensValue_of_isDigit (h : c.isDigit) : opensValue c := by
  simp only [opensValue, isBlank, Bool.and_eq_true, Bool.not_eq_true', Bool.or_eq_false_iff,
    decide_eq_true_eq, decide_eq_false_iff_not]
  refine ⟨⟨⟨⟨⟨?_, ?_⟩, ?_⟩, ?_⟩, ?_⟩, ?_⟩ <;>
  · rintro rfl
    exact absurd h (by decide)

theorem DecimalText.exists_first (h : DecimalText cs) : ∃ c cs', cs = c :: cs' ∧ c.isDigit := by
  obtain ⟨ds, f, t, rfl, hn, hd, -⟩ := h
  obtain ⟨d, ds, rfl, hdig, -⟩ := startsWithDigit_cons_of_mem hn hd []
  exact ⟨d, _, List.cons_append, hdig⟩

theorem Number.exists_first (x : Number) :
    ∃ c cs, x.chars = c :: cs ∧ (c = '-' ∨ c.isDigit) := by
  cases x with
  | int i hi =>
    rw [chars, Text.decimalChars]
    split
    · exact ⟨'-', _, rfl, .inl rfl⟩
    · obtain ⟨d, ds, hds, hd⟩ := Text.exists_digits i.natAbs
      exact ⟨d, ds, hds, .inr hd⟩
  | double x =>
    rw [chars]
    split
    · exact ⟨'-', _, rfl, .inl rfl⟩
    · obtain ⟨d, ds, hds, hd⟩ := (decimalText_doubleChars x).exists_first
      exact ⟨d, ds, hds, .inr hd⟩

theorem opensValue_of_number (h : c = '-' ∨ c.isDigit) : opensValue c := by
  rcases h with rfl | h
  · rfl
  · exact opensValue_of_isDigit h

theorem exists_opensValue (j : Json) : ∃ c cs, chars j = c :: cs ∧ opensValue c := by
  cases j with
  | null => exact ⟨_, _, by rw [chars], by decide⟩
  | bool b => cases b <;> exact ⟨_, _, by rw [chars], by decide⟩
  | num x =>
    obtain ⟨c, cs, hx, hc⟩ := x.exists_first
    exact ⟨c, cs, by rw [chars, hx], opensValue_of_number hc⟩
  | str s => exact ⟨_, _, by rw [chars, stringChars, List.cons_append], by decide⟩
  | arr items => exact ⟨_, _, by rw [chars, List.cons_append], by decide⟩
  | obj members => exact ⟨_, _, by rw [chars, List.cons_append], by decide⟩

theorem eq_null_of_chars (h : chars j = 'n' :: cs) : j = .null := by
  cases j with
  | null => rfl
  | bool b => cases b <;> (rw [chars] at h; cases h)
  | num x =>
    obtain ⟨c, cs', hx, hc⟩ := x.exists_first
    rw [chars, hx] at h
    cases h
    exact absurd hc (by decide)
  | str s =>
    rw [chars, stringChars] at h
    cases h
  | arr items =>
    rw [chars] at h
    cases h
  | obj members =>
    rw [chars] at h
    cases h

theorem skipBlanks_of_opensValue (h : opensValue c) (cs : List Char) :
    skipBlanks (c :: cs) = c :: cs := by
  simp only [opensValue, Bool.and_eq_true, Bool.not_eq_true'] at h
  exact List.dropWhile_cons_of_neg (by simp [h.1.1])

theorem nextItem_first (h : opensValue c) (cs : List Char) :
    nextItem true (c :: cs) = .ok (true, c :: cs) := by
  rw [nextItem, skipBlanks_of_opensValue h]
  split
  · next he => cases he
  · next he =>
    cases he
    exact absurd h (by decide)
  · next he =>
    cases he
    exact absurd h (by decide)
  · rfl

theorem nextItem_comma (h : opensValue c) (cs : List Char) :
    nextItem false (',' :: c :: cs) = .ok (true, c :: cs) := by
  have hs : skipBlanks (',' :: c :: cs) = ',' :: c :: cs := rfl
  simp only [nextItem, hs, skipBlanks_of_opensValue h, Bool.false_eq_true, ↓reduceIte]
  split
  · next he => cases he
  · next he =>
    cases he
    exact absurd h (by decide)
  · rfl

theorem nextItem_chars (j : Json) (cs : List Char) :
    nextItem true (chars j ++ cs) = .ok (true, chars j ++ cs) := by
  obtain ⟨c, cs', hc, ho⟩ := exists_opensValue j
  rw [hc, List.cons_append, nextItem_first ho]

theorem nextItem_comma_chars (j : Json) (cs : List Char) :
    nextItem false (',' :: (chars j ++ cs)) = .ok (true, chars j ++ cs) := by
  obtain ⟨c, cs', hc, ho⟩ := exists_opensValue j
  rw [hc, List.cons_append, nextItem_comma ho]

theorem length_chars_pos (j : Json) : 0 < (chars j).length := by
  obtain ⟨c, cs, hc, -⟩ := exists_opensValue j
  rw [hc]
  exact Nat.succ_pos _

theorem nextKey_comma (cs : List Char) : nextKey false (',' :: '"' :: cs) = .ok (true, cs) := rfl

theorem nextKey_first (cs : List Char) : nextKey true ('"' :: cs) = .ok (true, cs) := rfl

/-- A value is read back from its text, whatever follows that cannot continue a number. -/
def ReadsBack (item : List Char → Except Fault (Json × List Char)) (j : Json) : Prop :=
  ∀ rest, EndsNumber rest → item (chars j ++ rest) = .ok (j, rest)

variable {item : List Char → Except Fault (Json × List Char)}

theorem itemsChars_cons (x : Json) (xs : List Json) :
    itemsChars (x :: xs) = chars x ++ xs.flatMap fun y => ',' :: chars y := by
  induction xs generalizing x with
  | nil => rw [itemsChars, List.flatMap_nil, List.append_nil]
  | cons y ys ih =>
    rw [itemsChars, ih, List.flatMap_cons, List.cons_append]
    simp

theorem readItems_cons (hn : nextItem first cs = .ok (true, cs₁))
    (hx : item cs₁ = .ok (x, cs₂)) (ht : readItems item fuel false cs₂ = .ok (xs, rest)) :
    readItems item (fuel + 1) first cs = .ok (x :: xs, rest) := by
  simp only [readItems, hn, hx, ht, bind, Except.bind, pure, Except.pure]

theorem endsNumber_cons (h : continuesNumber c = false) (cs : List Char) :
    EndsNumber (c :: cs) := by
  intro d hd
  cases hd
  exact h

/-- What is written behind one value of several. -/
theorem endsNumber_tail (f : α → List Char) (h : continuesNumber c = false) (xs : List α)
    (rest : List Char) : EndsNumber (xs.flatMap (fun x => ',' :: f x) ++ c :: rest) := by
  cases xs with
  | nil => exact endsNumber_cons h rest
  | cons x xs => exact endsNumber_cons (by decide) _

theorem readItems_tail (hi : ∀ x ∈ xs, ReadsBack item x) (hf : xs.length < fuel) (rest : List Char) :
    readItems item fuel false (xs.flatMap (fun x => ',' :: chars x) ++ ']' :: rest) =
      .ok (xs, rest) := by
  induction xs generalizing fuel with
  | nil =>
    cases fuel with
    | zero => cases hf
    | succ fuel => rfl
  | cons x xs ih =>
    cases fuel with
    | zero => cases hf
    | succ fuel =>
      rw [List.forall_mem_cons] at hi
      have ht := ih hi.2 (Nat.lt_of_succ_lt_succ hf)
      have hx := hi.1 _ (endsNumber_tail chars (by decide : continuesNumber ']' = false) xs rest)
      rw [List.flatMap_cons, List.cons_append, List.cons_append, List.append_assoc]
      exact readItems_cons (nextItem_comma_chars x _) hx ht

theorem length_le_length_flatMap (f : α → List Char) (xs : List α) :
    xs.length ≤ (xs.flatMap fun x => ',' :: f x).length := by
  induction xs with
  | nil => exact Nat.le_refl 0
  | cons x xs ih =>
    rw [List.flatMap_cons, List.length_append, List.length_cons, List.length_cons]
    omega

theorem readItems_itemsChars (hi : ∀ x ∈ xs, ReadsBack item x) (rest : List Char) :
    readItems item ((itemsChars xs ++ ']' :: rest).length + 1) true
      (itemsChars xs ++ ']' :: rest) = .ok (xs, rest) := by
  cases xs with
  | nil => rw [itemsChars]; rfl
  | cons x xs =>
    rw [List.forall_mem_cons] at hi
    have hp := length_chars_pos x
    have hl := length_le_length_flatMap chars xs
    have hx := hi.1 _ (endsNumber_tail chars (by decide : continuesNumber ']' = false) xs rest)
    rw [itemsChars_cons, List.append_assoc]
    apply readItems_cons (nextItem_chars x _) hx
    apply readItems_tail hi.2
    rw [List.length_append, List.length_append]
    omega

/-- The text of a member. -/
def memberChars (m : String × Json) : List Char := stringChars m.1 ++ ':' :: chars m.2

theorem membersChars_cons (m : String × Json) (ms : List (String × Json)) :
    membersChars (m :: ms) = memberChars m ++ ms.flatMap fun m => ',' :: memberChars m := by
  induction ms generalizing m with
  | nil => rw [membersChars, List.flatMap_nil, List.append_nil, memberChars]
  | cons m' ms ih =>
    rw [membersChars, ih, List.flatMap_cons]
    · simp only [memberChars, List.append_assoc, List.cons_append]
    · exact List.cons_ne_nil _ _

theorem readMembers_cons (hn : nextKey first cs = .ok (true, cs₁))
    (hk : readString cs₁ = .ok (k, ':' :: cs₂)) (hv : item cs₂ = .ok (v, cs₃))
    (ht : readMembers item fuel false cs₃ = .ok (ms, rest)) :
    readMembers item (fuel + 1) first cs = .ok ((k, v) :: ms, rest) := by
  have hc : colon (':' :: cs₂) = .ok cs₂ := rfl
  simp only [readMembers, hn, hk, hc, hv, ht, bind, Except.bind, pure, Except.pure]

/-- A member in front of others, without the quote that opens its key. -/
theorem readMembers_memberChars (before : List Char)
    (hn : ∀ cs, nextKey first (before ++ '"' :: cs) = .ok (true, cs))
    (hv : ReadsBack item m.2) (hr : EndsNumber rest)
    (ht : readMembers item fuel false rest = .ok (ms, rest')) :
    readMembers item (fuel + 1) first (before ++ memberChars m ++ rest) =
      .ok (m :: ms, rest') := by
  have hs : before ++ memberChars m ++ rest =
      before ++ '"' :: (m.1.toList.flatMap escapedChar ++ '"' :: ':' :: (chars m.2 ++ rest)) := by
    simp only [memberChars, stringChars, List.append_assoc, List.cons_append, List.nil_append]
  rw [hs]
  exact readMembers_cons (hn _) (readString_stringChars m.1 _) (hv rest hr) ht

theorem readMembers_tail (hi : ∀ m ∈ ms, ReadsBack item m.2) (hf : ms.length < fuel)
    (rest : List Char) :
    readMembers item fuel false (ms.flatMap (fun m => ',' :: memberChars m) ++ '\x7d' :: rest) =
      .ok (ms, rest) := by
  induction ms generalizing fuel with
  | nil =>
    cases fuel with
    | zero => cases hf
    | succ fuel => rfl
  | cons m ms ih =>
    cases fuel with
    | zero => cases hf
    | succ fuel =>
      rw [List.forall_mem_cons] at hi
      have ht := ih hi.2 (Nat.lt_of_succ_lt_succ hf)
      rw [List.flatMap_cons, List.append_assoc]
      exact readMembers_memberChars [','] nextKey_comma hi.1
        (endsNumber_tail memberChars (by decide) ms rest) ht

theorem readMembers_membersChars (hi : ∀ m ∈ ms, ReadsBack item m.2) (rest : List Char) :
    readMembers item ((membersChars ms ++ '\x7d' :: rest).length + 1) true
      (membersChars ms ++ '\x7d' :: rest) = .ok (ms, rest) := by
  cases ms with
  | nil => rw [membersChars]; rfl
  | cons m ms =>
    rw [List.forall_mem_cons] at hi
    have hl := length_le_length_flatMap memberChars ms
    rw [membersChars_cons, List.append_assoc]
    apply readMembers_memberChars [] nextKey_first hi.1
      (endsNumber_tail memberChars (by decide) ms rest)
    apply readMembers_tail hi.2
    rw [List.length_append, List.length_append]
    have hm : 0 < (memberChars m).length := Nat.succ_pos _
    omega

theorem readValue_obj (h : ∀ m ∈ ms, ReadsBack (readValue n) m.2) (rest : List Char) :
    readValue (n + 1) (chars (.obj ms) ++ rest) = .ok (.obj (sortMembers ms), rest) := by
  have hs (cs : List Char) : skipBlanks ('\x7b' :: cs) = '\x7b' :: cs := rfl
  rw [chars, List.cons_append, List.cons_append, List.append_assoc, List.singleton_append,
    readValue]
  simp only [readWith, hs, readMembers_membersChars h, bind, Except.bind, pure, Except.pure]

theorem readValue_arr (h : ∀ j ∈ items, ReadsBack (readValue n) j) (rest : List Char) :
    readValue (n + 1) (chars (.arr items) ++ rest) = .ok (.arr items, rest) := by
  have hs (cs : List Char) : skipBlanks ('[' :: cs) = '[' :: cs := rfl
  rw [chars, List.cons_append, List.cons_append, List.append_assoc, List.singleton_append,
    readValue]
  simp only [readWith, hs, readItems_itemsChars h, bind, Except.bind, pure, Except.pure]

theorem readWith_number (h : c = '-' ∨ c.isDigit) (cs : List Char) :
    readWith nested (c :: cs) = (readNumber (c :: cs)).map fun (x, rest) => (.num x, rest) := by
  rw [readWith, skipBlanks_of_opensValue (opensValue_of_number h)]
  split
  · next he => cases he
  iterate 6
    · next he =>
      cases he
      exact absurd h (by decide)
  · next he =>
    cases he
    rw [if_pos h]
    cases readNumber (c :: cs) with
    | error e => rfl
    | ok r => rfl

theorem readWith_num (x : Number) (rest : List Char) :
    readWith nested (x.chars ++ rest) =
      (readNumber (x.chars ++ rest)).map fun (x, rest) => (.num x, rest) := by
  obtain ⟨c, cs, hx, hc⟩ := x.exists_first
  rw [hx, List.cons_append, readWith_number hc]

theorem exists_readWith (n : Nat) : ∃ nested, readValue n = readWith nested := by
  cases n with
  | zero => exact ⟨none, rfl⟩
  | succ n => exact ⟨some (readValue n), rfl⟩

theorem Plain.readsBack (h : Plain n j) : ReadsBack (readValue n) j := by
  induction h with
  | @null n =>
    intro rest _
    obtain ⟨nested, he⟩ := exists_readWith n
    rw [he, chars]
    rfl
  | @bool n b =>
    intro rest _
    obtain ⟨nested, he⟩ := exists_readWith n
    cases b <;>
    · rw [he, chars]
      rfl
  | @int n i hi =>
    intro rest hr
    obtain ⟨nested, he⟩ := exists_readWith n
    rw [he, chars, readWith_num, Number.chars, readNumber_decimalChars i hi hr]
    rfl
  | @str n s =>
    intro rest _
    obtain ⟨nested, he⟩ := exists_readWith n
    have hs (cs : List Char) : skipBlanks ('"' :: cs) = '"' :: cs := rfl
    rw [he, chars, stringChars, List.cons_append, List.cons_append, List.append_assoc,
      List.singleton_append]
    simp only [readWith, hs, readString_stringChars, bind, Except.bind, pure, Except.pure]
  | @arr items n hp ih =>
    intro rest _
    exact readValue_arr ih rest
  | @obj ms n ha hp ih =>
    intro rest _
    rw [readValue_obj ih, ha.sort]

theorem Plain.read_text (h : Plain 127 j) : read (text j) = .ok j := by
  have hr := h.readsBack [] (by simp [EndsNumber])
  rw [List.append_nil] at hr
  rw [read, text, String.toList_ofList, maxDepth, hr]
  rfl

/-- The text of an object has the members of the object, in the order in which they stand. -/
theorem holds_text (h : ∀ m ∈ ms, Plain 126 m.2) : Holds (Utf8.encode (text (.obj ms))) ms := by
  refine ⟨text (.obj ms), membersChars ms ++ ['\x7d'], [], Utf8.decode?_encode _, ?_, ?_, rfl⟩
  · rw [text, String.toList_ofList, chars]
    rfl
  · exact readMembers_membersChars (fun m hm => (h m hm).readsBack) []

end TokenGate.Json
