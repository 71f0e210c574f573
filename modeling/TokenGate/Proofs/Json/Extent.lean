import TokenGate.Proofs.Json.RoundTrip
/-!
How far values reach. Whatever is read from the text of a value, reading stops where the text ends,
so that an object is read with the keys that it has, even if some of its values are read as others.
-/
namespace TokenGate.Json

variable {item : List Char → Except Fault (Json × List Char)} {rest rest' : List Char}

/-- A value is read as another one. -/
def ReadsAs (item : List Char → Except Fault (Json × List Char)) (j j' : Json) : Prop :=
  ∃ rest, EndsNumber rest ∧ item (chars j ++ rest) = .ok (j', rest)

theorem ReadsAs.eq_of_readsBack (h : ReadsAs item j j') (hb : ReadsBack item j) : j' = j := by
  obtain ⟨rest, hr, h⟩ := h
  rw [hb rest hr] at h
  cases h
  rfl

/-- If a value is read at all, reading stops where its text ends. -/
def StopsBehind (item : List Char → Except Fault (Json × List Char)) (j : Json) : Prop :=
  ∀ rest x rest', EndsNumber rest → item (chars j ++ rest) = .ok (x, rest') → rest' = rest

theorem readItems_eq_cons (hn : nextItem first cs = .ok (true, cs₁))
    (h : readItems item (fuel + 1) first cs = .ok (ys, rest)) :
    ∃ y cs₂ ys', item cs₁ = .ok (y, cs₂) ∧ readItems item fuel false cs₂ = .ok (ys', rest) := by
  obtain ⟨next, hn', h⟩ := bind_eq_ok.1 h
  cases hn.symm.trans hn'
  obtain ⟨⟨y, cs₂⟩, hy, h⟩ := bind_eq_ok.1 h
  obtain ⟨⟨ys', cs₃⟩, ht, h⟩ := bind_eq_ok.1 h
  cases h
  exact ⟨y, cs₂, ys', hy, ht⟩

theorem readItems_tail_rest {xs : List Json} (hi : ∀ x ∈ xs, StopsBehind item x)
    (h : readItems item fuel false (xs.flatMap (fun x => ',' :: chars x) ++ ']' :: rest) =
      .ok (ys, rest')) : rest' = rest := by
  induction xs generalizing fuel ys with
  | nil =>
    cases fuel with
    | zero => cases h
    | succ fuel =>
      cases h
      rfl
  | cons x xs ih =>
    cases fuel with
    | zero => cases h
    | succ fuel =>
      rw [List.forall_mem_cons] at hi
      rw [List.flatMap_cons, List.cons_append, List.cons_append, List.append_assoc] at h
      obtain ⟨y, cs₂, ys', hy, ht⟩ := readItems_eq_cons (nextItem_comma_chars x _) h
      rw [hi.1 _ _ _ (endsNumber_tail chars (by decide) xs rest) hy] at ht
      exact ih hi.2 ht

theorem readItems_itemsChars_rest {xs : List Json} (hi : ∀ x ∈ xs, StopsBehind item x)
    (h : readItems item (fuel + 1) true (itemsChars xs ++ ']' :: rest) = .ok (ys, rest')) :
    rest' = rest := by
  cases xs with
  | nil =>
    rw [itemsChars] at h
    cases h
    rfl
  | cons x xs =>
    rw [List.forall_mem_cons] at hi
    rw [itemsChars_cons, List.append_assoc] at h
    obtain ⟨y, cs₂, ys', hy, ht⟩ := readItems_eq_cons (nextItem_chars x _) h
    rw [hi.1 _ _ _ (endsNumber_tail chars (by decide) xs rest) hy] at ht
    exact readItems_tail_rest hi.2 ht

/-- Members are read with the keys that they have, and each value is read as another one. -/
inductive MembersReadAs (item : List Char → Except Fault (Json × List Char)) :
    List (String × Json) → List (String × Json) → Prop where
  | nil : MembersReadAs item [] []
  | cons (hv : ReadsAs item v v') (ht : MembersReadAs item ms ms') :
      MembersReadAs item ((k, v) :: ms) ((k, v') :: ms')

theorem readMembers_eq_cons (hn : nextKey first cs = .ok (true, cs₁))
    (hk : readString cs₁ = .ok (k, ':' :: cs₂))
    (h : readMembers item (fuel + 1) first cs = .ok (ms, rest)) :
    ∃ v cs₃ ms', ms = (k, v) :: ms' ∧ item cs₂ = .ok (v, cs₃) ∧
      readMembers item fuel false cs₃ = .ok (ms', rest) := by
  obtain ⟨next, hn', h⟩ := bind_eq_ok.1 h
  cases hn.symm.trans hn'
  obtain ⟨key, hk', h⟩ := bind_eq_ok.1 h
  cases hk.symm.trans hk'
  obtain ⟨cs', hc, h⟩ := bind_eq_ok.1 h
  have hc' : colon (':' :: cs₂) = .ok cs₂ := rfl
  cases hc'.symm.trans hc
  obtain ⟨⟨v, cs₃⟩, hv, h⟩ := bind_eq_ok.1 h
  obtain ⟨⟨ms', cs₄⟩, ht, h⟩ := bind_eq_ok.1 h
  cases h
  exact ⟨v, cs₃, ms', rfl, hv, ht⟩

/-- A member in front of others, without the quote that opens its key. -/
theorem readMembers_memberChars_eq (before : List Char)
    (hn : ∀ cs, nextKey first (before ++ '"' :: cs) = .ok (true, cs))
    (hi : StopsBehind item m.2) (hr : EndsNumber rest)
    (h : readMembers item (fuel + 1) first (before ++ memberChars m ++ rest) = .ok (ms, rest')) :
    ∃ v ms', ms = (m.1, v) :: ms' ∧ ReadsAs item m.2 v ∧
      readMembers item fuel false rest = .ok (ms', rest') := by
  have hs : before ++ memberChars m ++ rest =
      before ++ '"' :: (m.1.toList.flatMap escapedChar ++ '"' :: ':' :: (chars m.2 ++ rest)) := by
    simp only [memberChars, stringChars, List.append_assoc, List.cons_append, List.nil_append]
  rw [hs] at h
  obtain ⟨v, cs₃, ms', rfl, hv, ht⟩ := readMembers_eq_cons (hn _) (readString_stringChars m.1 _) h
  cases hi _ _ _ hr hv
  exact ⟨v, ms', rfl, ⟨rest, hr, hv⟩, ht⟩

theorem readMembers_tail_eq {ms : List (String × Json)} (hi : ∀ m ∈ ms, StopsBehind item m.2)
    (h : readMembers item fuel false
      (ms.flatMap (fun m => ',' :: memberChars m) ++ '\x7d' :: rest) = .ok (ms', rest')) :
    MembersReadAs item ms ms' ∧ rest' = rest := by
  induction ms generalizing fuel ms' with
  | nil =>
    cases fuel with
    | zero => cases h
    | succ fuel =>
      cases h
      exact ⟨.nil, rfl⟩
  | cons m ms ih =>
    cases fuel with
    | zero => cases h
    | succ fuel =>
      rw [List.forall_mem_cons] at hi
      rw [List.flatMap_cons, List.append_assoc] at h
      obtain ⟨v, ms'', rfl, hm, ht⟩ := readMembers_memberChars_eq [','] nextKey_comma hi.1
        (endsNumber_tail memberChars (by decide) ms rest) h
      obtain ⟨hms, hrest⟩ := ih hi.2 ht
      exact ⟨.cons hm hms, hrest⟩

theorem readMembers_membersChars_eq {ms : List (String × Json)}
    (hi : ∀ m ∈ ms, StopsBehind item m.2)
    (h : readMembers item (fuel + 1) true (membersChars ms ++ '\x7d' :: rest) = .ok (ms', rest')) :
    MembersReadAs item ms ms' ∧ rest' = rest := by
  cases ms with
  | nil =>
    rw [membersChars] at h
    cases h
    exact ⟨.nil, rfl⟩
  | cons m ms =>
    rw [List.forall_mem_cons] at hi
    rw [membersChars_cons, List.append_assoc] at h
    obtain ⟨v, ms'', rfl, hm, ht⟩ := readMembers_memberChars_eq [] nextKey_first hi.1
      (endsNumber_tail memberChars (by decide) ms rest) h
    obtain ⟨hms, hrest⟩ := readMembers_tail_eq hi.2 ht
    exact ⟨.cons hm hms, hrest⟩

/-- What is read from the text of an object: its members, in order of their keys. -/
theorem readWith_obj_eq {ms : List (String × Json)} (hi : ∀ m ∈ ms, StopsBehind item m.2)
    (h : readWith (some item) (chars (.obj ms) ++ rest) = .ok (j, rest')) :
    rest' = rest ∧ ∃ ms', j = .obj (sortMembers ms') ∧ MembersReadAs item ms ms' := by
  have hs (cs : List Char) : skipBlanks ('\x7b' :: cs) = '\x7b' :: cs := rfl
  rw [chars, List.cons_append, List.cons_append, List.append_assoc, List.singleton_append,
    readWith, hs] at h
  obtain ⟨⟨ms', cs⟩, hm, h⟩ := bind_eq_ok.1 h
  cases h
  obtain ⟨hms, rfl⟩ := readMembers_membersChars_eq hi hm
  exact ⟨rfl, ms', rfl, hms⟩

theorem readWith_arr_rest {items : List Json} (hi : ∀ x ∈ items, StopsBehind item x)
    (h : readWith (some item) (chars (.arr items) ++ rest) = .ok (j, rest')) : rest' = rest := by
  have hs (cs : List Char) : skipBlanks ('[' :: cs) = '[' :: cs := rfl
  rw [chars, List.cons_append, List.cons_append, List.append_assoc, List.singleton_append,
    readWith, hs] at h
  obtain ⟨⟨xs, cs⟩, hx, h⟩ := bind_eq_ok.1 h
  cases h
  exact readItems_itemsChars_rest hi hx

/-- Reading stops behind the text of a value, if this holds of what may be inside the value. -/
theorem stopsBehind_readWith (hi : ∀ item, nested = some item → ∀ j, StopsBehind item j)
    (j : Json) : StopsBehind (readWith nested) j := by
  intro rest x rest' hr h
  cases j with
  | null =>
    rw [chars] at h
    cases h
    rfl
  | bool b =>
    cases b <;>
    · rw [chars] at h
      cases h
      rfl
  | num n =>
    rw [chars, readWith_num] at h
    cases hn : readNumber (n.chars ++ rest) with
    | error e =>
      rw [hn] at h
      cases h
    | ok r =>
      rw [hn] at h
      cases h
      exact readNumber_rest hr hn
  | str s =>
    have hs (cs : List Char) : skipBlanks ('"' :: cs) = '"' :: cs := rfl
    rw [chars, stringChars, List.cons_append, List.cons_append, List.append_assoc,
      List.singleton_append, readWith, hs] at h
    simp only [readString_stringChars, bind, Except.bind, pure, Except.pure] at h
    cases h
    rfl
  | arr items =>
    cases nested with
    | none => cases h
    | some item => exact readWith_arr_rest (fun x _ => hi item rfl x) h
  | obj ms =>
    cases nested with
    | none => cases h
    | some item => exact (readWith_obj_eq (fun m _ => hi item rfl m.2) h).1

theorem stopsBehind_readValue (n : Nat) (j : Json) : StopsBehind (readValue n) j := by
  induction n generalizing j with
  | zero =>
    refine stopsBehind_readWith ?_ j
    intro item he
    cases he
  | succ n ih =>
    refine stopsBehind_readWith ?_ j
    intro item he j
    cases he
    exact ih j

/-- Lists one inside the other, the last one empty. -/
def lists : Nat → Json
  | 0 => .arr []
  | n + 1 => .arr [lists n]

/-- Lists that nest deeper than they may are not read at all. -/
theorem not_readsAs_lists (n : Nat) (j : Json) : ¬ ReadsAs (readValue n) (lists n) j := by
  rintro ⟨rest, -, h⟩
  induction n generalizing j rest with
  | zero => cases h
  | succ n ih =>
    have hs (cs : List Char) : skipBlanks ('[' :: cs) = '[' :: cs := rfl
    rw [lists, chars, List.cons_append, List.cons_append, List.append_assoc, itemsChars, readValue,
      readWith, hs] at h
    obtain ⟨⟨xs, cs⟩, hx, -⟩ := bind_eq_ok.1 h
    obtain ⟨y, cs₂, ys, hy, -⟩ := readItems_eq_cons (nextItem_chars _ _) hx
    exact ih y _ (stopsBehind_readValue n (lists n) _ y cs₂ (endsNumber_cons (by decide) _) hy ▸ hy)

theorem MembersReadAs.lookup (h : MembersReadAs item ms ms') (key : String) :
    Option.Rel (ReadsAs item) (ms.lookup key) (ms'.lookup key) := by
  induction h with
  | nil => exact .none
  | cons hv ht ih =>
    rw [lookup_cons, lookup_cons]
    split
    · exact .some hv
    · exact ih

theorem MembersReadAs.keys (h : MembersReadAs item ms ms') :
    ms'.map Prod.fst = ms.map Prod.fst := by
  induction h with
  | nil => rfl
  | cons hv ht ih => rw [List.map_cons, List.map_cons, ih]

theorem ascending_iff : Ascending ms ↔ (ms.map Prod.fst).Pairwise (· < ·) := by
  rw [Ascending, List.pairwise_map]

theorem read_text_obj {ms : List (String × Json)} (h : read (text (.obj ms)) = .ok j) :
    ∃ ms', j = .obj (sortMembers ms') ∧ MembersReadAs (readValue 126) ms ms' := by
  rw [read, text, String.toList_ofList] at h
  obtain ⟨⟨x, rest⟩, hx, h⟩ := bind_eq_ok.1 h
  obtain ⟨u, -, h⟩ := bind_eq_ok.1 h
  cases h
  rw [← List.append_nil (chars (.obj ms))] at hx
  exact (readWith_obj_eq (fun m _ => stopsBehind_readValue 126 m.2) hx).2

/-- The text of an object with its members in order is read as an object with the same keys, if it
is read at all. -/
theorem read_text_members {ms : List (String × Json)} (ha : Ascending ms)
    (h : read (text (.obj ms)) = .ok j) :
    ∃ ms', j = .obj ms' ∧
      ∀ key, Option.Rel (ReadsAs (readValue 126)) (ms.lookup key) (ms'.lookup key) := by
  obtain ⟨ms', rfl, hms⟩ := read_text_obj h
  have ha' : Ascending ms' := by
    rw [ascending_iff, hms.keys]
    exact ascending_iff.1 ha
  rw [ha'.sort]
  exact ⟨ms', rfl, hms.lookup⟩

theorem lookup_of_plain (h : Option.Rel (ReadsAs (readValue 126)) (some j) o) (hp : Plain 126 j) :
    o = some j := by
  cases h with
  | some hr => rw [hr.eq_of_readsBack hp.readsBack]

end TokenGate.Json
