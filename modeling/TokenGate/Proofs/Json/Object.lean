import TokenGate.Json.Reader
import TokenGate.Proofs.Json.Members
/-!
Objects as they are written. What is read from the text of an object is, for every key, the value
that is written last.
-/
namespace TokenGate.Json

/-- The members of an object in the order in which the bytes of its text have them. -/
def Holds (b : Bytes) (written : List (String × Json)) : Prop :=
  ∃ text cs rest, Utf8.decode? b = some text ∧ skipBlanks text.toList = '\x7b' :: cs ∧
    readMembers (readValue 126) (cs.length + 1) true cs = .ok (written, rest) ∧
    finish rest = .ok ()

theorem Holds.unique (h : Holds b written) (h' : Holds b written') : written = written' := by
  obtain ⟨text, cs, rest, ht, hc, hm, -⟩ := h
  obtain ⟨text', cs', rest', ht', hc', hm', -⟩ := h'
  cases ht.symm.trans ht'
  cases hc.symm.trans hc'
  cases hm.symm.trans hm'
  rfl

/-- What reading can give: a scalar, or a list or an object if there may be any, of what is read
inside it. Only null begins as null does. -/
inductive Gives (nested : Option (List Char → Except Fault (Json × List Char)))
    (cs rest : List Char) : Json → Prop
  | null (hc : skipBlanks cs = 'n' :: cs') : Gives nested cs rest .null
  | bool : Gives nested cs rest (.bool b)
  | num : Gives nested cs rest (.num n)
  | str : Gives nested cs rest (.str s)
  | arr (hn : nested = some item) (hc : skipBlanks cs = '[' :: cs')
      (h : readItems item (cs'.length + 1) true cs' = .ok (items, rest)) :
      Gives nested cs rest (.arr items)
  | obj (hn : nested = some item) (hc : skipBlanks cs = '\x7b' :: cs')
      (h : readMembers item (cs'.length + 1) true cs' = .ok (written, rest)) :
      Gives nested cs rest (.obj (sortMembers written))

theorem gives_of_readWith (h : readWith nested cs = .ok (j, rest)) : Gives nested cs rest j := by
  unfold readWith at h
  split at h
  · cases h
  · next hc =>
    obtain ⟨_, -, he⟩ := bind_eq_ok.1 h
    cases he
    exact .null hc
  · obtain ⟨_, -, he⟩ := bind_eq_ok.1 h
    cases he
    exact .bool
  · obtain ⟨_, -, he⟩ := bind_eq_ok.1 h
    cases he
    exact .bool
  · obtain ⟨_, -, he⟩ := bind_eq_ok.1 h
    cases he
    exact .str
  · next hc =>
    split at h
    · cases h
    · obtain ⟨_, hi, he⟩ := bind_eq_ok.1 h
      cases he
      exact .arr rfl hc hi
  · next hc =>
    split at h
    · cases h
    · obtain ⟨_, hm, he⟩ := bind_eq_ok.1 h
      cases he
      exact .obj rfl hc hm
  · split at h
    · obtain ⟨_, -, he⟩ := bind_eq_ok.1 h
      cases he
      exact .num
    · cases h

theorem readWith_eq_obj (h : readWith (some item) cs = .ok (.obj ms, rest)) :
    ∃ cs' written, skipBlanks cs = '\x7b' :: cs' ∧
      readMembers item (cs'.length + 1) true cs' = .ok (written, rest) ∧
      ms = sortMembers written := by
  cases gives_of_readWith h with
  | obj hn hc hm =>
    cases hn
    exact ⟨_, _, hc, hm, rfl⟩

theorem read?_eq_some {text : String} : read? text = some j ↔ read text = .ok j := by
  rw [read?]
  cases read text <;> simp [Except.toOption]

/-- Reading gives an object exactly for the text of one, and orders its members. -/
theorem ofBytes?_eq_obj_iff :
    ofBytes? b = some (.obj ms) ↔ ∃ written, Holds b written ∧ ms = sortMembers written := by
  simp only [ofBytes?, Option.bind_eq_bind, Option.bind_eq_some_iff, read?_eq_some]
  constructor
  · rintro ⟨text, ht, hread⟩
    obtain ⟨⟨j, rest⟩, hv, hread⟩ := bind_eq_ok.1 hread
    obtain ⟨u, hf, he⟩ := bind_eq_ok.1 hread
    cases he
    obtain ⟨cs, written, hcs, hm, hms⟩ := readWith_eq_obj hv
    exact ⟨written, ⟨text, cs, rest, ht, hcs, hm, hf⟩, hms⟩
  · rintro ⟨written, ⟨text, cs, rest, ht, hcs, hm, hf⟩, rfl⟩
    refine ⟨text, ht, ?_⟩
    have hv : readValue maxDepth text.toList = .ok (.obj (sortMembers written), rest) := by
      change readWith (some (readValue 126)) text.toList = _
      simp only [readWith, hcs, hm, bind, Except.bind, pure, Except.pure]
    simp only [read, hv, hf, bind, Except.bind, pure, Except.pure]

end TokenGate.Json
