import TokenGate.Proofs.Net.Address
/-!
What the texts of addresses look like: of which characters they are, how many colons are among
them, and how long they are.
-/
namespace TokenGate.Net

/-- Characters of addresses without ports. -/
def isAddressChar (c : Char) : Bool := (hexDigitValue? c).isSome || c = ':' || c = '.'

theorem toNat_lt_of_isAddressChar (h : isAddressChar c) : c.toNat < 128 := by
  simp only [isAddressChar, Bool.or_eq_true, decide_eq_true_eq] at h
  rcases h with (h | rfl) | rfl
  · simp only [hexDigitValue?] at h
    split at h
    · omega
    split at h
    · omega
    split at h
    · omega
    · cases h
  · decide
  · decide

/-- What holds of the characters of addresses can be tried out. -/
theorem forall_isAddressChar {p : Char → Bool}
    (h : ∀ i : Fin 128, isAddressChar (Char.ofNat i) → p (Char.ofNat i)) (hc : isAddressChar c) :
    p c := by
  have hi := h ⟨c.toNat, toNat_lt_of_isAddressChar hc⟩
  rw [Char.ofNat_toNat] at hi
  exact hi hc

theorem isAddressChar_of_hexDigit (h : c ∈ Text.hexDigits n) : isAddressChar c := by
  rw [isAddressChar, isSome_of_mem_hexDigits h]
  rfl

theorem isAddressChar_of_isDigit (h : c.isDigit) : isAddressChar c := by
  rw [isAddressChar, hexDigitValue?]
  simp only [if_pos (Text.toNat_of_isDigit h)]
  rfl

theorem mem_octetChars (h : c ∈ octetChars a b d e) : c.isDigit ∨ c = '.' := by
  simp only [octetChars, List.mem_append, List.mem_cons, or_assoc] at h
  rcases h with h | rfl | h | rfl | h | rfl | h
  · exact .inl (Text.isDigit_of_mem_digits h)
  · exact .inr rfl
  · exact .inl (Text.isDigit_of_mem_digits h)
  · exact .inr rfl
  · exact .inl (Text.isDigit_of_mem_digits h)
  · exact .inr rfl
  · exact .inl (Text.isDigit_of_mem_digits h)

theorem isAddressChar_of_octet (h : c ∈ octetChars a b d e) : isAddressChar c := by
  rcases mem_octetChars h with h | rfl
  · exact isAddressChar_of_isDigit h
  · rfl

theorem isAddressChar_of_segment (h : c ∈ segmentChars gs) : isAddressChar c := by
  cases gs with
  | nil => exact (List.not_mem_nil h).elim
  | cons g gs =>
    rw [segmentChars_cons, List.mem_append] at h
    rcases h with h | h
    · exact isAddressChar_of_hexDigit h
    · obtain ⟨g', -, h⟩ := List.mem_flatMap.1 h
      rcases List.mem_cons.1 h with rfl | h
      · rfl
      · exact isAddressChar_of_hexDigit h

theorem isAddressChar_of_v6 (h : c ∈ v6Chars gs) : isAddressChar c := by
  have hw := written_v6Chars gs
  generalize v6Chars gs = cs at h hw
  cases hw with
  | mapped he =>
    rcases List.mem_append.1 h with h | h
    · exact List.all_eq_true.1 (by decide : "::ffff:".toList.all isAddressChar) c h
    · exact isAddressChar_of_octet h
  | full => exact isAddressChar_of_segment h
  | shortened hn he =>
    simp only [List.mem_append, List.mem_cons] at h
    rcases h with h | rfl | rfl | h
    · exact isAddressChar_of_segment h
    · rfl
    · rfl
    · exact isAddressChar_of_segment h

theorem count_colon_of_digits {ds : List Char} (h : ∀ c ∈ ds, c ≠ ':') : ds.count ':' = 0 :=
  List.count_eq_zero.2 fun hm => h _ hm rfl

theorem ne_colon_of_hexDigit (h : c ∈ Text.hexDigits n) : c ≠ ':' := by
  rintro rfl
  exact absurd (isSome_of_mem_hexDigits h) (by decide)

theorem count_colon_tail (gs : List Nat) : (segmentsTail gs).count ':' = gs.length := by
  induction gs with
  | nil => rfl
  | cons g gs ih =>
    have hg := count_colon_of_digits fun c hc => ne_colon_of_hexDigit (n := g) hc
    rw [segmentsTail, List.flatMap_cons, List.count_append, List.count_cons_self, hg,
      List.length_cons]
    rw [segmentsTail] at ih
    omega

theorem count_colon_segments (gs : List Nat) : (segmentChars gs).count ':' ≤ gs.length := by
  cases gs with
  | nil => exact Nat.le_refl 0
  | cons g gs =>
    have hg := count_colon_of_digits fun c hc => ne_colon_of_hexDigit (n := g) hc
    rw [segmentChars_cons, List.count_append, count_colon_tail, hg, List.length_cons]
    omega

theorem count_colon_octets (a b c d : Nat) : (octetChars a b c d).count ':' = 0 := by
  apply count_colon_of_digits
  rintro x hx rfl
  exact absurd (mem_octetChars hx) (by decide)

theorem count_colon_v6 (hl : gs.length = 8) : (v6Chars gs).count ':' ≤ 8 := by
  have hw := written_v6Chars gs
  generalize v6Chars gs = cs at hw ⊢
  cases hw with
  | mapped he =>
    rw [List.count_append, count_colon_octets]
    decide
  | full => exact hl ▸ count_colon_segments gs
  | @shortened n before after hn he =>
    have hb := count_colon_segments before
    have ha := count_colon_segments after
    rw [he, List.length_append, List.length_append, List.length_replicate] at hl
    rw [List.count_append, List.count_cons_self, List.count_cons_self]
    omega

theorem length_octetChars {a b c d : Nat} (ha : a < 256) (hb : b < 256) (hc : c < 256)
    (hd : d < 256) : (octetChars a b c d).length ≤ 15 := by
  have ha := (octetDigits ha).1
  have hb := (octetDigits hb).1
  have hc := (octetDigits hc).1
  have hd := (octetDigits hd).1
  simp only [octetChars, List.length_append, List.length_cons]
  omega

theorem length_hexDigits (h : n < 0x1_0000) : (Text.hexDigits n).length ≤ 4 :=
  (Nat.length_toDigits_le_iff (by decide) (by decide)).2 h

theorem length_segmentsTail (h : ∀ g ∈ gs, g < 0x1_0000) :
    (segmentsTail gs).length ≤ 5 * gs.length := by
  induction gs with
  | nil => exact Nat.le_refl 0
  | cons g gs ih =>
    rw [List.forall_mem_cons] at h
    have hg := length_hexDigits h.1
    have ht := ih h.2
    rw [segmentsTail] at ht
    rw [segmentsTail, List.flatMap_cons, List.length_append, List.length_cons, List.length_cons]
    omega

theorem length_segmentChars (h : ∀ g ∈ gs, g < 0x1_0000) :
    (segmentChars gs).length ≤ 5 * gs.length := by
  cases gs with
  | nil => exact Nat.le_refl 0
  | cons g gs =>
    rw [List.forall_mem_cons] at h
    have hg := length_hexDigits h.1
    have ht := length_segmentsTail h.2
    rw [segmentChars_cons, List.length_append, List.length_cons]
    omega

theorem length_v6Chars (h : ∀ g ∈ gs, g < 0x1_0000) (hl : gs.length = 8) :
    (v6Chars gs).length ≤ 40 := by
  have hw := written_v6Chars gs
  generalize v6Chars gs = cs at hw ⊢
  cases hw with
  | @mapped g h' he =>
    rw [he] at h
    simp only [List.forall_mem_cons] at h
    obtain ⟨-, -, -, -, -, -, hg, hh, -⟩ := h
    have ho := @length_octetChars (g / 256) (g % 256) (h' / 256) (h' % 256) (by omega) (by omega)
      (by omega) (by omega)
    have hp : "::ffff:".toList.length = 7 := rfl
    rw [List.length_append]
    omega
  | full =>
    have hs := length_segmentChars h
    omega
  | @shortened n before after hn he =>
    have hb := @length_segmentChars before fun g hg => h g (by simp [he, hg])
    have ha := @length_segmentChars after fun g hg => h g (by simp [he, hg])
    rw [he, List.length_append, List.length_append, List.length_replicate] at hl
    rw [List.length_append, List.length_cons, List.length_cons]
    omega

/-- The host of an address with a port, in brackets if it has colons. -/
def SocketAddr.hostChars (a : SocketAddr) : List Char :=
  match a.ip with
  | .v4 .. => a.ip.chars
  | .v6 _ => '[' :: a.ip.chars ++ [']']

theorem SocketAddr.hostChars_inj {a b : SocketAddr} (h : a.hostChars = b.hostChars) :
    a.ip = b.ip := by
  have hdigit {x : List Char} {a b c d : UInt8} :
      IpAddr.chars (.v4 a b c d) ≠ '[' :: x := by
    intro h
    have hm : '[' ∈ IpAddr.chars (.v4 a b c d) := h ▸ List.mem_cons_self
    exact absurd (isAddressChar_of_octet hm) (by decide)
  obtain ⟨a, _⟩ := a
  obtain ⟨b, _⟩ := b
  cases a with
  | v4 a₁ a₂ a₃ a₄ =>
    cases b with
    | v4 b₁ b₂ b₃ b₄ =>
      have ha := @octets?_octetChars [] a₁ a₂ a₃ a₄ nofun
      have hb := @octets?_octetChars [] b₁ b₂ b₃ b₄ nofun
      simp only [hostChars, IpAddr.chars] at h
      rw [h, hb] at ha
      cases ha
      rfl
    | v6 => exact (hdigit h).elim
  | v6 xs =>
    cases b with
    | v4 => exact (hdigit h.symm).elim
    | v6 ys =>
      simp only [hostChars, IpAddr.chars, List.cons_append, List.cons.injEq, true_and,
        List.append_cancel_right_eq] at h
      have hx := v6?_v6Chars xs
      rw [ofWords, h, ← ofWords, v6?_v6Chars] at hx
      cases hx
      rfl

theorem SocketAddr.toList_text (a : SocketAddr) :
    a.text.toList = a.hostChars ++ ':' :: Text.digits a.port.toNat := by
  obtain ⟨ip, port⟩ := a
  have hp : (toString port.toNat).toList = Text.digits port.toNat := String.toList_ofList
  cases ip with
  | v4 a b c d =>
    have hi : (toString (IpAddr.text (.v4 a b c d))).toList = (IpAddr.v4 a b c d).chars :=
      String.toList_ofList
    have hc : (toString ":").toList = [':'] := rfl
    simp only [text, hostChars, String.toList_append, hp, hi, hc, List.append_assoc,
      List.singleton_append]
  | v6 words =>
    have hi : (toString (IpAddr.text (.v6 words))).toList = (IpAddr.v6 words).chars :=
      String.toList_ofList
    have ho : (toString "[").toList = ['['] := rfl
    have hc : (toString "]:").toList = [']', ':'] := rfl
    simp only [text, hostChars, String.toList_append, hp, hi, ho, hc, List.append_assoc,
      List.cons_append, List.nil_append]

theorem isAddressChar_port (n : Nat) : ∀ c ∈ ':' :: Text.digits n, isAddressChar c := by
  intro c hc
  rcases List.mem_cons.1 hc with rfl | hc
  · rfl
  · exact isAddressChar_of_isDigit (Text.isDigit_of_mem_digits hc)

/-- Characters of addresses with ports. -/
def isTextChar (c : Char) : Bool := isAddressChar c || c = '[' || c = ']'

theorem SocketAddr.isTextChar_of_mem (a : SocketAddr) : ∀ c ∈ a.text.toList, isTextChar c := by
  intro c hc
  have hi (h : isAddressChar c) : isTextChar c := by rw [isTextChar, h]; rfl
  rw [a.toList_text, List.mem_append] at hc
  rcases hc with hc | hc
  · obtain ⟨ip, port⟩ := a
    cases ip with
    | v4 => exact hi (isAddressChar_of_octet hc)
    | v6 words =>
      simp only [hostChars, List.cons_append, List.mem_cons, List.mem_append, List.not_mem_nil,
        or_false] at hc
      rcases hc with rfl | hc | rfl
      · rfl
      · exact hi (isAddressChar_of_v6 hc)
      · rfl
  · exact hi (isAddressChar_port a.port.toNat c hc)

/-- What holds of the characters of addresses with ports can be tried out. -/
theorem forall_isTextChar {p : Char → Bool}
    (h : ∀ i : Fin 128, isTextChar (Char.ofNat i) → p (Char.ofNat i)) (hc : isTextChar c) :
    p c := by
  have hlt : c.toNat < 128 := by
    simp only [isTextChar, Bool.or_eq_true, decide_eq_true_eq] at hc
    rcases hc with (hc | rfl) | rfl
    · exact toNat_lt_of_isAddressChar hc
    · decide
    · decide
  have hi := h ⟨c.toNat, hlt⟩
  rw [Char.ofNat_toNat] at hi
  exact hi hc

theorem SocketAddr.length_text (a : SocketAddr) : a.text.toList.length ≤ 48 := by
  have hp : (Text.digits a.port.toNat).length ≤ 5 :=
    (Nat.length_toDigits_le_iff (by decide) (by decide)).2 (by have := a.port.toNat_lt; omega)
  have hh : a.hostChars.length ≤ 42 := by
    obtain ⟨ip, port⟩ := a
    cases ip with
    | v4 a b c d =>
      have ho := length_octetChars a.toNat_lt b.toNat_lt c.toNat_lt d.toNat_lt
      simp only [hostChars, IpAddr.chars]
      omega
    | v6 words =>
      have hv := length_v6Chars (fun g hg => lt_of_mem_ofWords hg) (length_ofWords words)
      rw [ofWords] at hv
      simp only [hostChars, IpAddr.chars, List.length_append, List.length_cons, List.length_nil]
      omega
  rw [a.toList_text, List.length_append, List.length_cons]
  omega

end TokenGate.Net
