import Mathlib.Data.List.Forall2
import TokenGate.Json.Decoder
import TokenGate.Proofs.Json.RoundTrip
/-!
Decoders on texts. What a list or a record is decoded to is put together from what its parts are
decoded to, and what each field of a record keeps holds of the whole.
-/
namespace TokenGate.Json

theorem orMalformed_eq_ok {r : Except Fault α} : orMalformed r = .ok a ↔ r = .ok a := mapError_eq_ok

theorem ofInt_eq_num {i : Int}
    (h : -0x8000_0000_0000_0000 ≤ i ∧ i < 0x1_0000_0000_0000_0000) : ofInt i = .num (.int i h) := by
  simp only [ofInt, Number.ofInt?, dif_pos h]

theorem int32_inRange (i : Int32) :
    -0x8000_0000_0000_0000 ≤ i.toInt ∧ i.toInt < 0x1_0000_0000_0000_0000 := by
  have hl := Int32.le_toInt i
  have hu := Int32.toInt_lt i
  omega

theorem uint64_inRange (i : UInt64) :
    -0x8000_0000_0000_0000 ≤ (i.toNat : Int) ∧ (i.toNat : Int) < 0x1_0000_0000_0000_0000 := by
  have hu := i.toNat_lt
  omega

namespace Decoder

/-- The text of a value is decoded, whatever follows that cannot continue a number. -/
def Reads (d : Decoder α) (depth : Nat) (j : Json) (x : α) : Prop :=
  ∀ rest, EndsNumber rest → d.fromText depth (chars j ++ rest) = .ok (x, rest)

/-- Whatever is decoded has a property. -/
def Yields (d : Decoder α) (p : α → Prop) : Prop :=
  ∀ depth cs x rest, d.fromText depth cs = .ok (x, rest) → p x

/-- Whatever is decoded has a property, where lists and objects nest at most a number of times. -/
def YieldsAt (d : Decoder α) (depth : Nat) (p : α → Prop) : Prop :=
  ∀ cs x rest, d.fromText depth cs = .ok (x, rest) → p x

section
variable {d : Decoder α} {p : α → Prop} {depth : Nat} {j : Json} {text : String}

theorem decode_eq_ok : d.decode text = .ok x ↔
    ∃ rest, d.fromText maxDepth text.toList = .ok (x, rest) ∧ finish rest = .ok () := by
  simp only [decode, mapError_eq_ok, bind_eq_ok, orMalformed_eq_ok]
  constructor
  · rintro ⟨⟨y, rest⟩, hy, _, hf, he⟩
    cases he
    exact ⟨rest, hy, hf⟩
  · rintro ⟨rest, hx, hf⟩
    exact ⟨(x, rest), hx, (), hf, rfl⟩

theorem Reads.decode_text (h : d.Reads maxDepth j x) : d.decode j.text = .ok x := by
  have hr := h [] nofun
  rw [List.append_nil] at hr
  rw [decode_eq_ok, Json.text, String.toList_ofList]
  exact ⟨[], hr, rfl⟩

theorem YieldsAt.of_decode (h : d.YieldsAt maxDepth p) (hd : d.decode text = .ok x) : p x := by
  obtain ⟨rest, hr, -⟩ := decode_eq_ok.1 hd
  exact h _ _ _ hr

theorem Yields.of_decode (h : d.Yields p) (hd : d.decode text = .ok x) : p x :=
  YieldsAt.of_decode (h maxDepth) hd

theorem yields_true : d.Yields fun _ => True := fun _ _ _ _ _ => trivial

theorem refine_fromText {f : α → Except Mismatch β} {cs : List Char} :
    (d.refine f).fromText depth cs = .ok (y, rest) ↔
      ∃ x, d.fromText depth cs = .ok (x, rest) ∧ f x = .ok y := by
  simp only [refine, bind_eq_ok]
  constructor
  · rintro ⟨⟨x, rest'⟩, hx, hy⟩
    cases hf : f x with
    | error m =>
      rw [hf] at hy
      cases hy
    | ok z =>
      rw [hf] at hy
      cases hy
      exact ⟨x, hx, hf⟩
  · rintro ⟨x, hx, hf⟩
    refine ⟨(x, rest), hx, ?_⟩
    simp only [hf]
    rfl

theorem Reads.refine {f : α → Except Mismatch β} (h : d.Reads depth j x) (hf : f x = .ok y) :
    (d.refine f).Reads depth j y :=
  fun rest hr => refine_fromText.2 ⟨x, h rest hr, hf⟩

theorem Reads.map (h : d.Reads depth j x) (f : α → β) : (d.map f).Reads depth j (f x) :=
  h.refine rfl

theorem Yields.refine {f : α → Except Mismatch β} {q : β → Prop} (h : d.Yields p)
    (hf : ∀ x y, p x → f x = .ok y → q y) : (d.refine f).Yields q := by
  intro depth cs y rest hy
  obtain ⟨x, hx, hxy⟩ := refine_fromText.1 hy
  exact hf x y (h depth cs x rest hx) hxy

theorem YieldsAt.map {q : β → Prop} {f : α → β} (h : d.YieldsAt depth p)
    (hf : ∀ x, p x → q (f x)) : (d.map f).YieldsAt depth q := by
  intro cs y rest hy
  obtain ⟨x, hx, he⟩ := refine_fromText.1 hy
  cases he
  exact hf x (h cs x rest hx)

theorem reads_bool (b : Bool) : Decoder.bool.Reads depth (.bool b) b := by
  intro rest _
  cases b <;>
  · rw [chars]
    rfl

theorem reads_spelled {f : String → Except Mismatch α} (hf : f s = .ok x) :
    (spelled expected f).Reads depth (.str s) x := by
  intro rest _
  have hs (cs : List Char) : skipBlanks ('"' :: cs) = '"' :: cs := rfl
  rw [chars, stringChars, List.cons_append, List.cons_append, List.append_assoc,
    List.singleton_append]
  simp only [spelled, hs, readString_stringChars, orMalformed, Except.mapError, bind, Except.bind,
    hf, placeAfter]

theorem reads_string (s : String) : Decoder.string.Reads depth (.str s) s := reads_spelled rfl

theorem reads_any (h : Plain depth j) : any.Reads depth j j :=
  fun rest hr => orMalformed_eq_ok.2 (h.readsBack rest hr)

theorem reads_null : (optional d).Reads depth .null none := by
  intro rest _
  rw [chars]
  rfl

theorem Reads.optional (h : d.Reads depth j x) (hj : j ≠ .null) :
    (optional d).Reads depth j (some x) := by
  intro rest hr
  obtain ⟨c, cs, hc, ho⟩ := exists_opensValue j
  have hn : c ≠ 'n' := by
    rintro rfl
    exact hj (eq_null_of_chars hc)
  have hx := h rest hr
  rw [hc, List.cons_append] at hx ⊢
  simp only [Decoder.optional, skipBlanks_of_opensValue ho]
  split
  · next he =>
    cases he
    exact absurd rfl hn
  · rw [hx]
    rfl

theorem optional_eq_some (h : (optional d).fromText depth cs = .ok (some x, rest)) :
    (¬ ∃ cs', skipBlanks cs = 'n' :: cs') ∧ d.fromText depth (skipBlanks cs) = .ok (x, rest) := by
  simp only [Decoder.optional] at h
  split at h
  · obtain ⟨_, -, he⟩ := bind_eq_ok.1 h
    cases he
  · next hn =>
    obtain ⟨_, hx, he⟩ := bind_eq_ok.1 h
    cases he
    exact ⟨fun ⟨cs', hc⟩ => hn cs' hc, hx⟩

theorem reads_integer (hi : -0x8000_0000_0000_0000 ≤ i ∧ i < 0x1_0000_0000_0000_0000)
    (hb : low ≤ i ∧ i ≤ high) : (integer name low high).Reads depth (.num (.int i hi)) i := by
  intro rest hr
  obtain ⟨c, cs, hc, hn⟩ := (Number.int i hi).exists_first
  have hread : readNumber (c :: (cs ++ rest)) = .ok (.int i hi, rest) := by
    rw [← List.cons_append, ← hc, Number.chars]
    exact readNumber_decimalChars i hi hr
  rw [chars, hc, List.cons_append]
  simp only [integer, skipBlanks_of_opensValue (opensValue_of_number hn), if_pos hn, hread,
    orMalformed, Except.mapError, bind, Except.bind, boundedNumber, if_pos hb, placeAfter]

end

section
variable {item : List Char → Except Failure (α × List Char)} {d : Decoder α} {depth : Nat}

theorem itemsFromText_cons (hn : nextItem first cs = .ok (true, cs₁))
    (hx : item cs₁ = .ok (x, cs₂)) (ht : itemsFromText item fuel false cs₂ = .ok (xs, rest)) :
    itemsFromText item (fuel + 1) first cs = .ok (x :: xs, rest) := by
  simp only [itemsFromText, hn, hx, ht, orMalformed, Except.mapError, bind, Except.bind, pure,
    Except.pure]

theorem itemsFromText_tail (h : List.Forall₂ (d.Reads depth) js xs) (hf : js.length < fuel)
    (rest : List Char) :
    itemsFromText (d.fromText depth) fuel false
      (js.flatMap (fun j => ',' :: chars j) ++ ']' :: rest) = .ok (xs, ']' :: rest) := by
  induction h generalizing fuel with
  | nil =>
    cases fuel with
    | zero => cases hf
    | succ fuel => rfl
  | @cons j x js xs hx _ ih =>
    cases fuel with
    | zero => cases hf
    | succ fuel =>
      have ht := ih (Nat.lt_of_succ_lt_succ hf)
      have hx := hx _ (endsNumber_tail chars (by decide : continuesNumber ']' = false) js rest)
      rw [List.flatMap_cons, List.cons_append, List.cons_append, List.append_assoc]
      exact itemsFromText_cons (nextItem_comma_chars j _) hx ht

theorem itemsFromText_itemsChars (h : List.Forall₂ (d.Reads depth) js xs) (rest : List Char) :
    itemsFromText (d.fromText depth) ((itemsChars js ++ ']' :: rest).length + 1) true
      (itemsChars js ++ ']' :: rest) = .ok (xs, ']' :: rest) := by
  cases h with
  | nil => rw [itemsChars]; rfl
  | @cons j x js xs hx ht =>
    have hp := length_chars_pos j
    have hl := length_le_length_flatMap chars js
    have hx := hx _ (endsNumber_tail chars (by decide : continuesNumber ']' = false) js rest)
    rw [itemsChars_cons, List.append_assoc]
    apply itemsFromText_cons (nextItem_chars j _) hx
    apply itemsFromText_tail ht
    -- every item takes at least one character, so that there is fuel left
    rw [List.length_append, List.length_append]
    omega

end

theorem reads_list {d : Decoder α} (h : List.Forall₂ (d.Reads depth) js xs) :
    (list d).Reads (depth + 1) (.arr js) xs := by
  intro rest _
  have hs (cs : List Char) : skipBlanks ('[' :: cs) = '[' :: cs := rfl
  have he (cs : List Char) : endList (']' :: cs) = .ok cs := rfl
  rw [chars, List.cons_append, List.cons_append, List.append_assoc, List.singleton_append]
  simp only [list, hs, itemsFromText_itemsChars h, enclose, he, orMalformed, Except.mapError,
    Except.map]

/-- Members set the fields of a record one after another, each of them once. -/
inductive Sets (fields : List (Field ρ)) (depth : Nat) :
    List String → ρ → List (String × Json) → ρ → Prop
  | done (h : missing? fields seen = none) : Sets fields depth seen r [] r
  | field (hf : fields.find? (·.key = key) = some (.of key presence d put)) (hs : key ∉ seen)
      (hv : d.Reads depth j x) (ht : Sets fields depth (key :: seen) (put x r) ms r') :
      Sets fields depth seen r ((key, j) :: ms) r'

section
variable {fields : List (Field ρ)} {depth : Nat} {seen : List String} {r r' : ρ}

theorem fieldsFromMembers_done (h : missing? fields seen = none) (first : Bool)
    (rest : List Char) :
    fieldsFromMembers fields depth (fuel + 1) first seen r ('\x7d' :: rest) =
      .ok (r, '\x7d' :: rest) := by
  have hn : nextKey first ('\x7d' :: rest) = .ok (false, '\x7d' :: rest) := rfl
  simp only [fieldsFromMembers, hn, h, orMalformed, Except.mapError, bind, Except.bind, pure,
    Except.pure]

/-- A member in front of others, without the quote that opens its key. -/
theorem fieldsFromMembers_memberChars (before : List Char)
    (hn : ∀ cs, nextKey first (before ++ '"' :: cs) = .ok (true, cs))
    (hf : fields.find? (·.key = key) = some (.of key presence d put)) (hs : key ∉ seen)
    (hv : d.Reads depth j x) (hr : EndsNumber rest)
    (ht : fieldsFromMembers fields depth fuel false (key :: seen) (put x r) rest =
      .ok (r', rest')) :
    fieldsFromMembers fields depth (fuel + 1) first seen r
      (before ++ memberChars (key, j) ++ rest) = .ok (r', rest') := by
  have he : before ++ memberChars (key, j) ++ rest =
      before ++ '"' :: (key.toList.flatMap escapedChar ++ '"' :: ':' :: (chars j ++ rest)) := by
    simp only [memberChars, stringChars, List.append_assoc, List.cons_append, List.nil_append]
  have hc (cs : List Char) : colon (':' :: cs) = .ok cs := rfl
  have hput : (d.map put).fromText depth (chars j ++ rest) = .ok (put x, rest) :=
    hv.map put rest hr
  have hseen : seen.contains key = false := by simpa using hs
  rw [he]
  simp only [fieldsFromMembers, hn, readString_stringChars, hf, Field.of, hseen, hc, hput, ht,
    orMalformed, Except.mapError, bind, Except.bind, Bool.false_eq_true, if_false]

theorem Sets.tail (h : Sets fields depth seen r ms r') (hf : ms.length < fuel)
    (rest : List Char) :
    fieldsFromMembers fields depth fuel false seen r
      (ms.flatMap (fun m => ',' :: memberChars m) ++ '\x7d' :: rest) =
        .ok (r', '\x7d' :: rest) := by
  induction h generalizing fuel with
  | done h =>
    cases fuel with
    | zero => cases hf
    | succ fuel => exact fieldsFromMembers_done h false rest
  | @field key presence α d put seen j x r ms r' hk hs hv _ ih =>
    cases fuel with
    | zero => cases hf
    | succ fuel =>
      have ht := ih (Nat.lt_of_succ_lt_succ hf)
      have hr := endsNumber_tail memberChars (by decide : continuesNumber '\x7d' = false) ms rest
      rw [List.flatMap_cons, List.append_assoc]
      exact fieldsFromMembers_memberChars [','] nextKey_comma hk hs hv hr ht

theorem Sets.members (h : Sets fields depth seen r ms r') (rest : List Char) :
    fieldsFromMembers fields depth ((membersChars ms ++ '\x7d' :: rest).length + 1) true seen r
      (membersChars ms ++ '\x7d' :: rest) = .ok (r', '\x7d' :: rest) := by
  cases h with
  | done h =>
    rw [membersChars]
    exact fieldsFromMembers_done h true rest
  | @field key presence α d put _ j x _ ms _ hk hs hv ht =>
    have hl := length_le_length_flatMap memberChars ms
    have hr := endsNumber_tail memberChars (by decide : continuesNumber '\x7d' = false) ms rest
    rw [membersChars_cons, List.append_assoc]
    apply fieldsFromMembers_memberChars [] nextKey_first hk hs hv hr
    apply ht.tail
    -- the quote of every member is a character, so that there is fuel left
    rw [List.length_append, List.length_append]
    have hm : 0 < (memberChars (key, j)).length := Nat.succ_pos _
    omega

theorem Sets.reads {start : ρ} (h : Sets fields depth [] start ms r) :
    (record name fields start).Reads (depth + 1) (.obj ms) r := by
  intro rest _
  have hs (cs : List Char) : skipBlanks ('\x7b' :: cs) = '\x7b' :: cs := rfl
  rw [chars, List.cons_append, List.cons_append, List.append_assoc, List.singleton_append]
  simp only [record, hs, h.members, enclose, orMalformed, Except.mapError, Except.map,
    List.drop_succ_cons, List.drop_zero]

end

/-- Whatever a field is set to, it keeps a property of the record. -/
def Field.Keeps (f : Field ρ) (p : ρ → Prop) : Prop :=
  f.decoder.Yields fun put => ∀ r, p r → p (put r)

/-- Whatever a field is set to at some depth, it keeps a property of the record. -/
def Field.KeepsAt (f : Field ρ) (depth : Nat) (p : ρ → Prop) : Prop :=
  f.decoder.YieldsAt depth fun put => ∀ r, p r → p (put r)

section
variable {fields : List (Field ρ)} {p : ρ → Prop} {depth : Nat} {r r' start : ρ}

theorem keepsAt_of {q : α → Prop} {put : α → ρ → ρ} (h : d.YieldsAt depth q)
    (hp : ∀ x r, q x → p r → p (put x r)) : (Field.of key presence d put).KeepsAt depth p := by
  change (d.map put).YieldsAt depth fun put => ∀ r, p r → p (put r)
  refine h.map ?_
  intro x hx r hr
  exact hp x r hx hr

theorem keeps_of {q : α → Prop} {put : α → ρ → ρ} (h : d.Yields q)
    (hp : ∀ x r, q x → p r → p (put x r)) : (Field.of key presence d put).Keeps p :=
  fun depth => keepsAt_of (h depth) hp

theorem fieldsFromItems_keeps (hf : ∀ f ∈ fields, f.KeepsAt depth p) (hr : p r)
    (h : fieldsFromItems expected depth fields index first r cs = .ok (r', rest)) : p r' := by
  induction fields generalizing index first r cs with
  | nil =>
    cases h
    exact hr
  | cons f fields ih =>
    rw [List.forall_mem_cons] at hf
    obtain ⟨⟨more, cs₁⟩, -, h⟩ := bind_eq_ok.1 h
    cases more with
    | false =>
      simp only at h
      split at h
      · exact ih hf.2 hr h
      · cases h
    | true =>
      obtain ⟨⟨put, cs₂⟩, hput, h⟩ := bind_eq_ok.1 h
      exact ih hf.2 (hf.1 _ _ _ hput r hr) h

theorem fieldsFromMembers_keeps (hf : ∀ f ∈ fields, f.KeepsAt depth p) (hr : p r)
    (h : fieldsFromMembers fields depth fuel first seen r cs = .ok (r', rest)) : p r' := by
  induction fuel generalizing first seen r cs with
  | zero => cases h
  | succ fuel ih =>
    obtain ⟨⟨more, cs₁⟩, -, h⟩ := bind_eq_ok.1 h
    cases more with
    | false =>
      simp only at h
      split at h
      · cases h
      · cases h
        exact hr
    | true =>
      obtain ⟨⟨key, cs₂⟩, -, h⟩ := bind_eq_ok.1 h
      simp only at h
      split at h
      · obtain ⟨cs₃, -, h⟩ := bind_eq_ok.1 h
        obtain ⟨cs₄, -, h⟩ := bind_eq_ok.1 h
        exact ih hr h
      · next f hfind =>
        split at h
        · cases h
        · obtain ⟨cs₃, -, h⟩ := bind_eq_ok.1 h
          obtain ⟨⟨put, cs₄⟩, hput, h⟩ := bind_eq_ok.1 h
          exact ih (hf f (List.mem_of_find?_eq_some hfind) _ _ _ hput r hr) h

theorem enclose_eq_ok {x : Except Failure (α × List Char)}
    (h : enclose leave close x = .ok (a, rest)) : ∃ cs, x = .ok (a, cs) := by
  cases x with
  | error e => cases e <;> cases h
  | ok y =>
    obtain ⟨y, cs⟩ := y
    refine ⟨cs, ?_⟩
    simp only [enclose] at h
    cases hc : orMalformed (close cs) with
    | error e =>
      rw [hc] at h
      cases h
    | ok cs' =>
      rw [hc] at h
      cases h
      rfl

/-- The fields of a record are one level deeper than the record. -/
theorem yieldsAt_record (hf : ∀ f ∈ fields, f.KeepsAt (depth - 1) p) (hs : p start) :
    (record name fields start).YieldsAt depth p := by
  intro cs r rest h
  simp only [record] at h
  split at h
  · cases h
  · cases h
  · obtain ⟨cs', h⟩ := enclose_eq_ok h
    exact fieldsFromItems_keeps hf hs h
  · obtain ⟨cs', h⟩ := enclose_eq_ok h
    exact fieldsFromMembers_keeps hf hs h
  · cases h

theorem yields_record (hf : ∀ f ∈ fields, f.Keeps p) (hs : p start) :
    (record name fields start).Yields p :=
  fun depth => yieldsAt_record (fun f hm => hf f hm (depth - 1)) hs

end

/-- A member of a record is set by the decoder of its field. -/
theorem fieldFromMember_of {d : Decoder α} {set : α → ρ → ρ}
    (hf : fields.find? (·.key = key) = some (.of key presence d set)) (hv : d.fromValue j = .ok a)
    (r : ρ) : fieldFromMember fields r (key, j) = .ok (set a r) := by
  have hm : (Field.of key presence d set).decoder.fromValue j = .ok (set a) := by
    change d.fromValue j >>= (fun x => .ok (set x)) = _
    rw [hv]
    rfl
  simp only [fieldFromMember, hf, hm]
  rfl

end Decoder

end TokenGate.Json
