import TokenGate.Net.AddressReader
import TokenGate.Proofs.Basic
import TokenGate.Proofs.Json.Scan
/-!
Addresses are read back from their texts.
-/
namespace TokenGate.Net

open Json (startsWithDigit)

/-- Octets are written without leading zeros. -/
theorem octetDigits (h : n < 256) :
    (Text.digits n).length ≤ 3 ∧
      ¬ ((Text.digits n).head? = some '0' ∧ 1 < (Text.digits n).length) := by
  have hall : ∀ i : Fin 256, (Text.digits i).length ≤ 3 ∧
      ¬ ((Text.digits i).head? = some '0' ∧ 1 < (Text.digits i).length) := by
    decide +kernel
  exact hall ⟨n, h⟩

theorem octet?_digits (h : n < 256) (hr : ∀ c ∈ rest.head?, c.isDigit = false) :
    octet? (Text.digits n ++ rest) = some (UInt8.ofNat n, rest) := by
  have hdigit : ∀ c ∈ Text.digits n, c.isDigit = true := fun c hc => Text.isDigit_of_mem_digits hc
  obtain ⟨ht, hd⟩ := span_append hdigit hr
  obtain ⟨hl, hz⟩ := octetDigits h
  have hc : ¬ (Text.digits n = [] ∨ 3 < (Text.digits n).length ∨ 255 < n ∨
      ((Text.digits n).head? = some '0' ∧ 1 < (Text.digits n).length)) := by
    rintro (hc | hc | hc | hc)
    · exact Nat.toDigits_ne_nil hc
    · exact absurd hl (Nat.not_le.2 hc)
    · omega
    · exact hz hc
  simp only [octet?, ht, hd, Text.ofDigits_digits, if_neg hc]

theorem given?_cons (c : Char) (cs : List Char) : given? c (c :: cs) = some cs := if_pos rfl

theorem octets?_octetChars (a b c d : UInt8) (hr : ∀ c ∈ rest.head?, c.isDigit = false) :
    octets? (octetChars a.toNat b.toNat c.toNat d.toNat ++ rest) = some ((a, b, c, d), rest) := by
  have hp (cs : List Char) : ∀ c ∈ ('.' :: cs).head?, c.isDigit = false := by
    intro c hc
    cases hc
    rfl
  simp only [octets?, octetChars, List.append_assoc, List.cons_append,
    octet?_digits a.toNat_lt (hp _), octet?_digits b.toNat_lt (hp _),
    octet?_digits c.toNat_lt (hp _), octet?_digits d.toNat_lt hr, given?_cons,
    UInt8.ofNat_toNat, Option.bind_eq_bind, Option.bind_some, Option.pure_def]

theorem hexDigitValue?_digitChar (h : d < 16) : hexDigitValue? (Nat.digitChar d) = some d := by
  have hall : ∀ i : Fin 16, hexDigitValue? (Nat.digitChar i) = some i.val := by decide
  exact hall ⟨d, h⟩

theorem isSome_of_mem_hexDigits (h : c ∈ Text.hexDigits n) : (hexDigitValue? c).isSome := by
  induction n using Nat.strongRecOn with
  | ind n ih =>
    by_cases hn : n < 16
    · rw [Text.hexDigits, Nat.toDigits_of_lt_base hn, List.mem_singleton] at h
      rw [h, hexDigitValue?_digitChar hn]
      rfl
    · rw [Text.hexDigits, Nat.toDigits_of_base_le (by decide) (Nat.le_of_not_lt hn),
        List.mem_append, List.mem_singleton] at h
      rcases h with h | rfl
      · exact ih (n / 16) (by omega) h
      · rw [hexDigitValue?_digitChar (Nat.mod_lt _ (by decide))]
        rfl

theorem foldl_hexDigits (n : Nat) :
    (Text.hexDigits n).foldl (fun n c => 16 * n + (hexDigitValue? c).getD 0) 0 = n := by
  induction n using Nat.strongRecOn with
  | ind n ih =>
    by_cases hn : n < 16
    · rw [Text.hexDigits, Nat.toDigits_of_lt_base hn, List.foldl_cons, List.foldl_nil,
        hexDigitValue?_digitChar hn]
      exact Nat.zero_add n
    · have hq := ih (n / 16) (by omega)
      rw [Text.hexDigits] at hq
      rw [Text.hexDigits, Nat.toDigits_of_base_le (by decide) (Nat.le_of_not_lt hn),
        List.foldl_append, hq, List.foldl_cons, List.foldl_nil,
        hexDigitValue?_digitChar (Nat.mod_lt _ (by decide))]
      exact Nat.div_add_mod n 16

/-- What may follow a segment: nothing, or a colon. -/
def EndsSegment (rest : List Char) : Prop := ∀ c ∈ rest.head?, c = ':'

theorem segment?_hexDigits (h : n < 0x1_0000) (hr : EndsSegment rest) :
    segment? (Text.hexDigits n ++ rest) = some (n, rest) := by
  have hdigit : ∀ c ∈ Text.hexDigits n, (hexDigitValue? c).isSome = true :=
    fun c hc => isSome_of_mem_hexDigits hc
  have hrest : ∀ c ∈ rest.head?, (hexDigitValue? c).isSome = false := by
    intro c hc
    rw [hr c hc]
    rfl
  obtain ⟨ht, hd⟩ := span_append hdigit hrest
  have hl : (Text.hexDigits n).length ≤ 4 :=
    (Nat.length_toDigits_le_iff (by decide) (by decide)).2 h
  have hc : ¬ (Text.hexDigits n = [] ∨ 4 < (Text.hexDigits n).length) := by
    rintro (hc | hc)
    · exact Nat.toDigits_ne_nil hc
    · exact absurd hl (Nat.not_le.2 hc)
  simp only [segment?, ht, hd, foldl_hexDigits, if_neg hc]

theorem octets?_eq_none (h : given? '.' (cs.dropWhile Char.isDigit) = none) :
    octets? cs = none := by
  rw [octets?]
  cases ho : octet? cs with
  | none => rfl
  | some r =>
    obtain ⟨n, rest⟩ := r
    have hrest : rest = cs.dropWhile Char.isDigit := by
      simp only [octet?] at ho
      split at ho
      · cases ho
      · cases ho
        rfl
    simp only [hrest, h, Option.bind_eq_bind, Option.bind_some, Option.bind_none]

theorem given?_point_dropWhile (hd : ∀ c ∈ ds, c ≠ '.') (hr : EndsSegment rest) :
    given? '.' ((ds ++ rest).dropWhile Char.isDigit) = none := by
  induction ds with
  | nil =>
    cases rest with
    | nil => rfl
    | cons c rest =>
      cases hr c rfl
      rfl
  | cons d ds ih =>
    rw [List.forall_mem_cons] at hd
    rw [List.cons_append, List.dropWhile_cons]
    split
    · exact ih hd.2
    · exact if_neg hd.1

/-- A segment is not the first of four octets. -/
theorem octets?_hexDigits (n : Nat) (hr : EndsSegment rest) :
    octets? (Text.hexDigits n ++ rest) = none := by
  apply octets?_eq_none
  apply given?_point_dropWhile ?_ hr
  rintro c hc rfl
  exact absurd (isSome_of_mem_hexDigits hc) (by decide)

/-- What may follow segments that are not followed by another one: nothing, or the colons in the
place of zeros. -/
def EndsSegments (rest : List Char) : Prop := rest = [] ∨ ∃ cs, rest = ':' :: ':' :: cs

theorem EndsSegments.endsSegment (h : EndsSegments rest) : EndsSegment rest := by
  rcases h with rfl | ⟨cs, rfl⟩
  · exact fun c hc => nomatch hc
  · intro c hc
    cases hc
    rfl

theorem readSegments_stop (h : EndsSegments rest) (count : Nat) (first : Bool) :
    readSegments count first rest = ⟨[], false, rest⟩ := by
  cases count with
  | zero => rfl
  | succ count =>
    rw [readSegments]
    rcases h with rfl | ⟨cs, rfl⟩
    · cases first with
      | true => cases count <;> rfl
      | false => rfl
    · cases first with
      | true => cases count <;> rfl
      | false => cases count <;> rfl

/-- The text of segments behind others. -/
def segmentsTail (gs : List Nat) : List Char := gs.flatMap fun g => ':' :: Text.hexDigits g

theorem segmentChars_cons (g : Nat) (gs : List Nat) :
    segmentChars (g :: gs) = Text.hexDigits g ++ segmentsTail gs := by
  induction gs generalizing g with
  | nil => rw [segmentChars, segmentsTail, List.flatMap_nil, List.append_nil]
  | cons h gs ih =>
    rw [segmentChars, ih]
    · rfl
    · exact List.cons_ne_nil h gs

theorem endsSegment_tail (gs : List Nat) (h : EndsSegment rest) :
    EndsSegment (segmentsTail gs ++ rest) := by
  cases gs with
  | nil => exact h
  | cons g gs =>
    intro c hc
    cases hc
    rfl

/-- A segment is read, and then those behind it. -/
theorem readSegments_cons (hg : g < 0x1_0000) (hr : EndsSegment rest)
    (hcs : (if first then some cs else given? ':' cs) = some (Text.hexDigits g ++ rest)) :
    readSegments (count + 1) first cs =
      { readSegments count false rest with
        values := g :: (readSegments count false rest).values } := by
  have ho : (if count = 0 then none else octets? (Text.hexDigits g ++ rest)) = none := by
    rw [octets?_hexDigits g hr, ite_self]
  rw [readSegments]
  simp only [hcs, ho, segment?_hexDigits hg hr]

theorem readSegments_tail (hg : ∀ g ∈ gs, g < 0x1_0000) (hr : EndsSegments rest)
    (hl : gs.length ≤ count) :
    readSegments count false (segmentsTail gs ++ rest) = ⟨gs, false, rest⟩ := by
  induction gs generalizing count with
  | nil => exact readSegments_stop hr count false
  | cons g gs ih =>
    rw [List.forall_mem_cons] at hg
    obtain ⟨count, rfl⟩ : ∃ k, count = k + 1 := Nat.exists_eq_succ_of_ne_zero (by
      rintro rfl
      exact absurd hl (Nat.not_succ_le_zero _))
    have hcs : (if false then some (segmentsTail (g :: gs) ++ rest)
        else given? ':' (segmentsTail (g :: gs) ++ rest)) =
          some (Text.hexDigits g ++ (segmentsTail gs ++ rest)) := by
      rw [if_neg Bool.false_ne_true, segmentsTail, List.flatMap_cons, List.cons_append,
        List.cons_append, List.append_assoc]
      exact given?_cons _ _
    rw [readSegments_cons hg.1 (endsSegment_tail gs hr.endsSegment) hcs,
      ih hg.2 (Nat.le_of_succ_le_succ hl)]

theorem readSegments_segmentChars (hg : ∀ g ∈ gs, g < 0x1_0000) (hr : EndsSegments rest)
    (hl : gs.length ≤ count) :
    readSegments count true (segmentChars gs ++ rest) = ⟨gs, false, rest⟩ := by
  cases gs with
  | nil => exact readSegments_stop hr count true
  | cons g gs =>
    rw [List.forall_mem_cons] at hg
    obtain ⟨count, rfl⟩ : ∃ k, count = k + 1 := Nat.exists_eq_succ_of_ne_zero (by
      rintro rfl
      exact absurd hl (Nat.not_succ_le_zero _))
    rw [segmentChars_cons, List.append_assoc,
      readSegments_cons hg.1 (endsSegment_tail gs hr.endsSegment) rfl,
      readSegments_tail hg.2 hr (Nat.le_of_succ_le_succ hl)]

theorem leadingZeros_spec (gs : List Nat) :
    ∃ rest, gs = List.replicate (leadingZeros gs) 0 ++ rest := by
  induction gs with
  | nil => exact ⟨[], rfl⟩
  | cons g gs ih =>
    cases g with
    | zero =>
      obtain ⟨rest, h⟩ := ih
      refine ⟨rest, ?_⟩
      rw [leadingZeros, List.replicate_succ, List.cons_append, ← h]
    | succ g => exact ⟨(g + 1) :: gs, rfl⟩

/-- What is left out of segments is zeros. -/
theorem longestZeros_spec (index : Nat) (gs : List Nat) :
    ∃ before after, (longestZeros index gs).1 = index + before.length ∧
      gs = before ++ List.replicate (longestZeros index gs).2 0 ++ after := by
  induction gs generalizing index with
  | nil => exact ⟨[], [], rfl, rfl⟩
  | cons g gs ih =>
    simp only [longestZeros]
    split
    · obtain ⟨rest, h⟩ := leadingZeros_spec (g :: gs)
      exact ⟨[], rest, rfl, h⟩
    · obtain ⟨before, after, hs, he⟩ := ih (index + 1)
      refine ⟨g :: before, after, ?_, ?_⟩
      · rw [hs, List.length_cons]
        omega
      · rw [List.cons_append, List.cons_append, ← he]

/-- The segments of an address of the newer kind. -/
def ofWords (words : Vector UInt16 8) : List Nat := words.toList.map (·.toNat)

theorem length_ofWords (words : Vector UInt16 8) : (ofWords words).length = 8 := by
  simp [ofWords]

theorem lt_of_mem_ofWords (h : g ∈ ofWords words) : g < 0x1_0000 := by
  obtain ⟨w, -, rfl⟩ := List.mem_map.1 h
  exact w.toNat_lt

theorem ofSegments?_ofWords (words : Vector UInt16 8) :
    ofSegments? (ofWords words) = some (.v6 words) := by
  have hw : (ofWords words).map UInt16.ofNat = words.toList := by
    simp [ofWords, Function.comp_def]
  simp only [ofSegments?, hw]
  rw [dif_pos (by simp)]
  rfl

/-- An address is read as its segments, if they are found among what is left out. -/
theorem v6?_of_head (hh : readSegments 8 true cs = ⟨before, false, ':' :: ':' :: cs'⟩)
    (ht : readSegments (7 - before.length) true cs' = ⟨after, octets, []⟩)
    (hl : before.length < 8)
    (hw : before ++ List.replicate (8 - before.length - after.length) 0 ++ after = ofWords words) :
    v6? cs = some (.v6 words, []) := by
  have hne : before.length ≠ 8 := Nat.ne_of_lt hl
  simp only [v6?, hh, if_neg hne, given?_cons, Bool.false_eq_true, if_false, Option.bind_eq_bind,
    Option.bind_some, ht, hw, ofSegments?_ofWords, Option.pure_def]

theorem toNat_ofNat_octet (h : n < 0x1_0000) :
    (UInt8.ofNat (n / 256)).toNat = n / 256 ∧ (UInt8.ofNat (n % 256)).toNat = n % 256 := by
  have hs : UInt8.size = 256 := rfl
  constructor
  · exact UInt8.toNat_ofNat_of_lt' (by omega)
  · exact UInt8.toNat_ofNat_of_lt' (by omega)

theorem readSegments_mapped (hg : g < 0x1_0000) (hh : h < 0x1_0000) :
    readSegments 7 true
        ('f' :: 'f' :: 'f' :: 'f' :: ':' :: octetChars (g / 256) (g % 256) (h / 256) (h % 256)) =
      ⟨[0xffff, g, h], true, []⟩ := by
  obtain ⟨hg₁, hg₂⟩ := toNat_ofNat_octet hg
  obtain ⟨hh₁, hh₂⟩ := toNat_ofNat_octet hh
  have ho := @octets?_octetChars [] (.ofNat (g / 256)) (.ofNat (g % 256)) (.ofNat (h / 256))
    (.ofNat (h % 256)) nofun
  rw [hg₁, hg₂, hh₁, hh₂, List.append_nil] at ho
  have hs : readSegments 6 false (':' :: octetChars (g / 256) (g % 256) (h / 256) (h % 256)) =
      ⟨[g, h], true, []⟩ := by
    rw [readSegments]
    simp only [Bool.false_eq_true, if_false, given?_cons, Nat.succ_ne_zero, ho, hg₁, hg₂, hh₁, hh₂,
      Nat.div_add_mod']
  have hcs : (if true then
      some ('f' :: 'f' :: 'f' :: 'f' :: ':' :: octetChars (g / 256) (g % 256) (h / 256) (h % 256))
      else given? ':' ('f' :: 'f' :: 'f' :: 'f' :: ':' ::
        octetChars (g / 256) (g % 256) (h / 256) (h % 256))) =
      some (Text.hexDigits 0xffff ++
        (':' :: octetChars (g / 256) (g % 256) (h / 256) (h % 256))) := rfl
  rw [readSegments_cons (by decide) (fun c hc => by cases hc; rfl) hcs, hs]

theorem v6?_segmentChars (words : Vector UInt16 8) :
    v6? (segmentChars (ofWords words)) = some (.v6 words, []) := by
  have hl := length_ofWords words
  have hr : readSegments 8 true (segmentChars (ofWords words) ++ []) =
      ⟨ofWords words, false, []⟩ :=
    readSegments_segmentChars (fun g hg => lt_of_mem_ofWords hg) (.inl rfl) (Nat.le_of_eq hl)
  rw [List.append_nil] at hr
  simp only [v6?, hr, hl, if_true, ofSegments?_ofWords, Option.bind_eq_bind, Option.bind_some,
    Option.pure_def]

/-- How the segments of an address are written. -/
inductive Written (gs : List Nat) : List Char → Prop where
  | mapped (he : gs = [0, 0, 0, 0, 0, 0xffff, g, h]) :
      Written gs ("::ffff:".toList ++ octetChars (g / 256) (g % 256) (h / 256) (h % 256))
  | full : Written gs (segmentChars gs)
  | shortened (hn : 2 ≤ n) (he : gs = before ++ List.replicate n 0 ++ after) :
      Written gs (segmentChars before ++ ':' :: ':' :: segmentChars after)

theorem written_v6Chars (gs : List Nat) : Written gs (v6Chars gs) := by
  unfold v6Chars
  split
  · exact .mapped rfl
  · obtain ⟨before, after, hs, he⟩ := longestZeros_spec 0 gs
    generalize longestZeros 0 gs = run at hs he ⊢
    obtain ⟨start, length⟩ := run
    simp only [Nat.zero_add] at hs he ⊢
    split
    · exact .full
    · next hlong =>
      have hbefore : gs.take start = before := by
        rw [he, List.append_assoc, hs, List.take_left]
      have hafter : gs.drop (start + length) = after := by
        rw [he, hs]
        exact List.drop_left' (by rw [List.length_append, List.length_replicate])
      rw [hbefore, hafter]
      exact .shortened (by omega) he

/-- An address of the newer kind is read back from its text. -/
theorem v6?_v6Chars (words : Vector UInt16 8) :
    v6? (v6Chars (ofWords words)) = some (.v6 words, []) := by
  have hlt : ∀ g ∈ ofWords words, g < 0x1_0000 := fun g hg => lt_of_mem_ofWords hg
  have hl := length_ofWords words
  have hw := written_v6Chars (ofWords words)
  generalize v6Chars (ofWords words) = cs at hw ⊢
  cases hw with
  | @mapped g h he =>
    rw [he] at hlt
    simp only [List.forall_mem_cons] at hlt
    obtain ⟨-, -, -, -, -, -, hg, hh, -⟩ := hlt
    exact v6?_of_head (readSegments_stop (.inr ⟨_, rfl⟩) 8 true) (readSegments_mapped hg hh)
      (by decide) he.symm
  | full => exact v6?_segmentChars words
  | @shortened n before after hn he =>
    rw [he, List.length_append, List.length_append, List.length_replicate] at hl
    have hb : ∀ g ∈ before, g < 0x1_0000 := fun g hg => hlt g (by simp [he, hg])
    have ha : ∀ g ∈ after, g < 0x1_0000 := fun g hg => hlt g (by simp [he, hg])
    have hr := readSegments_segmentChars ha (.inl rfl)
      (by omega : after.length ≤ 7 - before.length)
    rw [List.append_nil] at hr
    apply v6?_of_head (readSegments_segmentChars hb (.inr ⟨_, rfl⟩) (by omega)) hr (by omega)
    rw [he, (by omega : 8 - before.length - after.length = n)]

/-- Segments do not begin with four octets. -/
theorem octets?_segmentChars (hr : EndsSegment rest) :
    octets? (segmentChars gs ++ rest) = none := by
  cases gs with
  | nil => exact octets?_eq_none (given?_point_dropWhile (List.forall_mem_nil _) hr)
  | cons g gs =>
    rw [segmentChars_cons, List.append_assoc]
    exact octets?_hexDigits g (endsSegment_tail gs hr)

theorem octets?_v6Chars (gs : List Nat) : octets? (v6Chars gs) = none := by
  have hc (cs : List Char) : EndsSegment (':' :: cs) := by
    intro c hm
    cases hm
    rfl
  have hw := written_v6Chars gs
  generalize v6Chars gs = cs at hw ⊢
  cases hw with
  | mapped he => exact @octets?_segmentChars _ [] (hc _)
  | full =>
    rw [← List.append_nil (segmentChars gs)]
    exact octets?_segmentChars nofun
  | shortened hn he => exact octets?_segmentChars (hc _)

theorem IpAddr.parse?_text (a : IpAddr) : parse? a.text = some a := by
  rw [parse?, text, String.toList_ofList]
  cases a with
  | v4 a b c d =>
    have ho := @octets?_octetChars [] a b c d nofun
    rw [List.append_nil] at ho
    simp only [chars, ho, if_true]
  | v6 words =>
    have hv := v6?_v6Chars words
    rw [ofWords] at hv
    simp only [chars, octets?_v6Chars, hv]

end TokenGate.Net
