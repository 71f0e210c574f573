import TokenGate.Http.Uri
import TokenGate.Http.Url
import TokenGate.Proofs.Basic
import TokenGate.Proofs.Net.AddressText
import TokenGate.Proofs.Text.Utf8
/-!
The address of a listener as what stands between the scheme and the path of an endpoint. Both
readers of endpoints take it, and find no path behind it, which stands for the path `/`.
-/
namespace TokenGate.Http

open Net (IpAddr SocketAddr isAddressChar forall_isAddressChar forall_isTextChar)

namespace Uri

theorem next_address (h : isAddressChar c) (s : Seen) :
    s.next c = if c = ':' then
      (if 8 ≤ s.colons then .error .authority else .ok { s with colons := s.colons + 1 })
      else .ok s := by
  have hc : isAuthorityChar c = true ∧ c ≠ '[' ∧ c ≠ ']' ∧ c ≠ '@' ∧ c ≠ '%' := by
    have hall := @forall_isAddressChar c (fun c => isAuthorityChar c && c ≠ '[' && c ≠ ']' &&
      c ≠ '@' && c ≠ '%') (by decide +kernel) h
    simpa [and_assoc] using hall
  obtain ⟨ha, hc⟩ := hc
  simp only [Seen.next, hc, if_false, ha, if_true]

/-- Of the characters of addresses, only colons count. -/
theorem foldlM_next {cs : List Char} (h : ∀ c ∈ cs, isAddressChar c) (s : Seen)
    (hn : s.colons + cs.count ':' ≤ 8) :
    cs.foldlM Seen.next s = .ok { s with colons := s.colons + cs.count ':' } := by
  induction cs generalizing s with
  | nil => rfl
  | cons c cs ih =>
    rw [List.forall_mem_cons] at h
    rw [List.foldlM_cons, next_address h.1]
    by_cases hc : c = ':'
    · subst hc
      rw [List.count_cons_self] at hn ⊢
      rw [if_pos rfl, if_neg (by omega)]
      have ht := ih h.2 { s with colons := s.colons + 1 } (by
        change s.colons + 1 + cs.count ':' ≤ 8
        omega)
      have he : s.colons + 1 + cs.count ':' = s.colons + (cs.count ':' + 1) := by omega
      simp only [he] at ht
      exact ht
    · rw [List.count_cons_of_ne hc] at hn ⊢
      rw [if_neg hc]
      exact ih h.2 s hn

theorem count_colon_port (n : Nat) : (':' :: Text.digits n).count ':' = 1 := by
  have hd : (Text.digits n).count ':' = 0 := by
    apply Net.count_colon_of_digits
    rintro c hc rfl
    exact absurd (Text.isDigit_of_mem_digits hc) (by decide)
  rw [List.count_cons_self, hd]

theorem foldlM_next_port (b : Bool) (n : Nat) :
    (':' :: Text.digits n).foldlM Seen.next ⟨0, b, b, false⟩ = .ok ⟨1, b, b, false⟩ := by
  have hc := count_colon_port n
  have hn : 0 + (':' :: Text.digits n).count ':' ≤ 8 := by
    rw [hc]
    decide
  rw [foldlM_next (Net.isAddressChar_port n) ⟨0, b, b, false⟩ hn, hc]

/-- The colons of a host in brackets do not count against the one before the port. -/
theorem foldlM_next_text (a : SocketAddr) :
    ∃ b, a.text.toList.foldlM Seen.next {} = .ok ⟨1, b, b, false⟩ := by
  rw [a.toList_text, SocketAddr.hostChars]
  obtain ⟨ip, port⟩ := a
  cases ip with
  | v4 a b c d =>
    have hn : (IpAddr.v4 a b c d).chars.count ':' = 0 := Net.count_colon_octets _ _ _ _
    have hh := foldlM_next (fun x hx => Net.isAddressChar_of_octet hx :
      ∀ x ∈ (IpAddr.v4 a b c d).chars, isAddressChar x) {} (by rw [hn]; decide)
    refine ⟨false, ?_⟩
    rw [List.foldlM_append, hh, hn]
    exact foldlM_next_port false port.toNat
  | v6 words =>
    have hn : 0 + (IpAddr.v6 words).chars.count ':' ≤ 8 := by
      rw [Nat.zero_add]
      exact Net.count_colon_v6 (Net.length_ofWords words)
    have hh := foldlM_next (fun x hx => Net.isAddressChar_of_v6 hx :
      ∀ x ∈ (IpAddr.v6 words).chars, isAddressChar x) ⟨0, true, false, false⟩ hn
    refine ⟨true, ?_⟩
    simp only [List.cons_append, List.append_assoc, List.foldlM_cons, List.foldlM_append]
    have ho : Seen.next {} '[' = .ok ⟨0, true, false, false⟩ := rfl
    rw [ho]
    simp only [bind, Except.bind, hh]
    exact foldlM_next_port true port.toNat

theorem checkAuthority_text (a : SocketAddr) : checkAuthority a.text.toList = .ok () := by
  obtain ⟨b, hb⟩ := foldlM_next_text a
  have hlast : a.text.toList.getLast? ≠ some '@' := fun h =>
    absurd (a.isTextChar_of_mem '@' (List.mem_of_getLast? h)) (by decide)
  simp only [checkAuthority, hb, hlast]
  cases b <;> rfl

/-- An address is read as an authority without a path. -/
theorem parse_text (a : SocketAddr) (hl : length ≤ maxLength) :
    Uri.parse length a.text = .ok ⟨a.text, "/"⟩ := by
  have hall : ∀ c ∈ a.text.toList, (!endsAuthority c) = true := fun c hc =>
    @forall_isTextChar c (fun c => !endsAuthority c) (by decide +kernel) (a.isTextChar_of_mem c hc)
  have hne : a.text.toList ≠ [] := by
    rw [a.toList_text]
    exact List.append_ne_nil_of_right_ne_nil _ (List.cons_ne_nil _ _)
  have hempty : a.text.toList.isEmpty = false := List.isEmpty_eq_false_iff.2 hne
  obtain ⟨htake, hdrop⟩ := @span_append _ _ _ [] hall nofun
  rw [List.append_nil] at htake hdrop
  simp only [Uri.parse, if_neg (Nat.not_lt.2 hl), hempty, htake, hdrop, checkAuthority_text,
    String.ofList_toList]
  rfl

end Uri

section
variable (a b c d : Nat)

theorem octetChars_eq : Net.octetChars a b c d =
    ['.'].intercalate [Text.digits a, Text.digits b, Text.digits c, Text.digits d] := by
  simp [Net.octetChars, List.intercalate]

theorem point_notMem_digits (n : Nat) : '.' ∉ Text.digits n := fun h =>
  absurd (Text.isDigit_of_mem_digits h) (by decide)

theorem splitOn_octetChars : (Net.octetChars a b c d).splitOn '.' =
    [Text.digits a, Text.digits b, Text.digits c, Text.digits d] := by
  rw [octetChars_eq]
  apply List.splitOn_intercalate
  · simp only [List.forall_mem_cons]
    exact ⟨point_notMem_digits a, point_notMem_digits b, point_notMem_digits c,
      point_notMem_digits d, nofun⟩
  · exact List.cons_ne_nil _ _

/-- What holds of digits and points can be tried out. -/
theorem forall_octetChar {p : Char → Bool}
    (h : ∀ i : Fin 128, ((Char.ofNat i).isDigit || Char.ofNat i = '.') → p (Char.ofNat i)) :
    ∀ x ∈ Net.octetChars a b c d, p x := by
  intro x hx
  have hlt := Net.toNat_lt_of_isAddressChar (Net.isAddressChar_of_octet hx)
  have hi := h ⟨x.toNat, hlt⟩
  rw [Char.ofNat_toNat] at hi
  rcases Net.mem_octetChars hx with hd | rfl
  · exact hi (by rw [hd]; rfl)
  · exact hi rfl

end

end TokenGate.Http

namespace TokenGate.HostName

open Net (octetChars)

theorem label?_digits (n : Nat) : label? (Text.digits n) = some (Text.digits n) := by
  obtain ⟨x, ds, hds, hx⟩ := Text.exists_digits n
  have hp : codeSign.isPrefixOf (Text.digits n) = false := by
    rw [hds]
    apply Bool.eq_false_iff.2
    intro h
    obtain ⟨rest, h⟩ := List.isPrefixOf_iff_prefix.1 h
    cases h
    exact absurd hx (by decide)
  have ha : (Text.digits n).all isAscii = true := by
    rw [List.all_eq_true]
    intro x hx
    have hlt := Net.toNat_lt_of_isAddressChar
      (Net.isAddressChar_of_isDigit (Text.isDigit_of_mem_digits hx))
    exact decide_eq_true hlt
  simp only [label?, hp, ha, Bool.false_eq_true, if_false, true_or, if_true]

theorem turns_digits (n : Nat) : ((Text.digits n).map direction).any turns = false := by
  rw [List.any_eq_false]
  intro x hx
  obtain ⟨y, hy, rfl⟩ := List.mem_map.1 hx
  have hd := Text.isDigit_of_mem_digits hy
  have hlt : y.toNat < 0x80 := Net.toNat_lt_of_isAddressChar (Net.isAddressChar_of_isDigit hd)
  simp only [direction, if_pos hlt, hd, if_true]
  decide

/-- An address of the older kind is its own name. -/
theorem read?_octetChars (a b c d : Nat) :
    read? (octetChars a b c d) = some (octetChars a b c d) := by
  have ha : (octetChars a b c d).all isAscii = true :=
    List.all_eq_true.2 (Http.forall_octetChar a b c d (by decide +kernel))
  have hl : (octetChars a b c d).map Char.toLower = octetChars a b c d := by
    have hall := @Http.forall_octetChar a b c d (fun x => x.toLower = x) (by decide +kernel)
    exact (List.map_congr_left fun x hx => of_decide_eq_true (hall x hx)).trans (List.map_id _)
  have hf : (octetChars a b c d).any isForbidden = false := by
    have hall := @Http.forall_octetChar a b c d (fun x => !isForbidden x) (by decide +kernel)
    rw [List.any_eq_false]
    intro x hx
    rw [Bool.not_eq_true, ← Bool.not_eq_true']
    exact hall x hx
  have ht : ([Text.digits a, Text.digits b, Text.digits c, Text.digits d].map
      fun label => label.map direction).flatten.any turns = false := by
    simp only [List.map_cons, List.map_nil, List.flatten_cons, List.flatten_nil, List.any_append,
      turns_digits, List.any_nil, Bool.or_self]
  simp only [read?, unify?, ha, if_true, hl, hf, Http.splitOn_octetChars, List.mapM_cons,
    List.mapM_nil, label?_digits, Option.bind_eq_bind, Option.bind_some, Option.pure_def, ht,
    Bool.false_eq_true, false_and, if_false, ← Http.octetChars_eq]

end TokenGate.HostName

namespace TokenGate.Http.Url

open Net (IpAddr SocketAddr octetChars)

theorem part?_digits (h : n < 256) : part? (Text.digits n) = some n := by
  have hall : ∀ i : Fin 256, part? (Text.digits i) = some i.val := by decide +kernel
  exact hall ⟨n, h⟩

theorem partsOf_octetChars (a b c d : Nat) : partsOf (octetChars a b c d) =
    [Text.digits a, Text.digits b, Text.digits c, Text.digits d] := by
  have hd : Text.digits d ≠ [] := Nat.toDigits_ne_nil
  simp only [partsOf, splitOn_octetChars]
  rw [if_neg]
  simpa using hd

theorem endsInNumber_octetChars (a b c d : Nat) : endsInNumber (octetChars a b c d) = true := by
  have hn : (Text.digits d).isEmpty = false := List.isEmpty_eq_false_iff.2 Nat.toDigits_ne_nil
  have hd : (Text.digits d).all Char.isDigit = true :=
    List.all_eq_true.2 fun x hx => Text.isDigit_of_mem_digits hx
  have hl : [Text.digits a, Text.digits b, Text.digits c, Text.digits d].getLast? =
      some (Text.digits d) := rfl
  simp only [endsInNumber, partsOf_octetChars, hl, hn, hd]
  rfl

theorem isSome_v4?_octetChars (a b c d : UInt8) :
    (v4? (octetChars a.toNat b.toNat c.toNat d.toNat)).isSome := by
  have ha := a.toNat_lt
  have hb := b.toNat_lt
  have hc := c.toNat_lt
  have hd := d.toNat_lt
  simp only [v4?, partsOf_octetChars, List.mapM_cons, List.mapM_nil, part?_digits ha,
    part?_digits hb, part?_digits hc, part?_digits hd, Option.bind_eq_bind, Option.bind_some,
    Option.pure_def]
  have hl : [a.toNat, b.toNat, c.toNat, d.toNat].getLast? = some d.toNat := rfl
  have hi : [a.toNat, b.toNat, c.toNat, d.toNat].dropLast = [a.toNat, b.toNat, c.toNat] := rfl
  have hc : ¬ (4 < [a.toNat, b.toNat, c.toNat, d.toNat].length ∨
      [a.toNat, b.toNat, c.toNat].any (255 < ·) ∨
      Nat.pow 256 (4 - [a.toNat, b.toNat, c.toNat].length) ≤ d.toNat) := by
    simp
    omega
  simp only [hl, hi, Option.bind_some, if_neg hc]
  rfl

theorem unescape_of_no_percent {cs : List Char} (h : ∀ c ∈ cs, c ≠ '%') :
    unescape cs = Utf8.encode (String.ofList cs) := by
  induction cs with
  | nil => rfl
  | cons c cs ih =>
    rw [List.forall_mem_cons] at h
    rw [unescape, ih h.2, String.ofList_cons, Utf8.encode_append]
    intro a b rest he
    exact (h.1 he).elim

theorem readHost_octetChars (a b c d : UInt8) :
    (readHost (octetChars a.toNat b.toNat c.toNat d.toNat)).isOk := by
  obtain ⟨v, hv⟩ := Option.isSome_iff_exists.1 (isSome_v4?_octetChars a b c d)
  have hp := @forall_octetChar a.toNat b.toNat c.toNat d.toNat (fun x => x ≠ '%' && x ≠ '[')
    (by decide +kernel)
  simp only [Bool.and_eq_true, decide_eq_true_eq] at hp
  have hu := unescape_of_no_percent fun x hx => (hp x hx).1
  have hr := HostName.read?_octetChars a.toNat b.toNat c.toNat d.toNat
  have hend := endsInNumber_octetChars a.toNat b.toNat c.toNat d.toNat
  have he : octetChars a.toNat b.toNat c.toNat d.toNat ≠ [] := by
    rw [octetChars]
    exact List.append_ne_nil_of_right_ne_nil _ (List.cons_ne_nil _ _)
  have hempty := List.isEmpty_eq_false_iff.2 he
  unfold readHost
  split
  · next hc => exact (he hc).elim
  · next rest hc =>
    rw [hc] at hp
    exact ((hp '[' List.mem_cons_self).2 rfl).elim
  · simp only [hu, Utf8.decode?_encode, Option.bind_eq_bind, Option.bind_some, String.toList_ofList,
      hr, hempty, hend, hv, if_true, Bool.false_eq_true, if_false]
    rfl

/-- The host of an address is read as a host. -/
theorem readHost_hostChars (a : SocketAddr) : (readHost a.hostChars).isOk := by
  obtain ⟨ip, port⟩ := a
  cases ip with
  | v4 a b c d => exact readHost_octetChars a b c d
  | v6 words =>
    have hl : ((IpAddr.v6 words).chars ++ [']']).getLast? = some ']' := List.getLast?_concat
    have hd : ((IpAddr.v6 words).chars ++ [']']).dropLast = Net.v6Chars (Net.ofWords words) :=
      List.dropLast_concat
    simp only [SocketAddr.hostChars, List.cons_append, readHost, hl, hd, Net.v6?_v6Chars]
    rfl

theorem splitPort_plain {cs : List Char} (h : ∀ c ∈ cs, c ≠ ':' ∧ c ≠ '[') (rest : List Char) :
    splitPort false (cs ++ ':' :: rest) = (cs, some rest) := by
  induction cs with
  | nil => rfl
  | cons c cs ih =>
    rw [List.forall_mem_cons] at h
    obtain ⟨⟨hc, ho⟩, h⟩ := h
    simp only [List.cons_append, splitPort, hc, ho, false_and, if_false, decide_false,
      Bool.false_and, Bool.or_self, ih h]

theorem splitPort_brackets {cs : List Char} (h : ∀ c ∈ cs, c ≠ ']') (rest : List Char) :
    splitPort true (cs ++ ']' :: ':' :: rest) = (cs ++ [']'], some rest) := by
  induction cs with
  | nil => rfl
  | cons c cs ih =>
    rw [List.forall_mem_cons] at h
    have hb : (c = '[' || (true && c ≠ ']')) = true := by simp [h.1]
    simp only [List.cons_append, splitPort, Bool.not_true, Bool.false_eq_true, and_false, if_false,
      hb, ih h.2]

theorem splitPort_text (a : SocketAddr) :
    splitPort false a.text.toList = (a.hostChars, some (Text.digits a.port.toNat)) := by
  rw [a.toList_text]
  obtain ⟨ip, port⟩ := a
  cases ip with
  | v4 a b c d =>
    have hp := @forall_octetChar a.toNat b.toNat c.toNat d.toNat (fun x => x ≠ ':' && x ≠ '[')
      (by decide +kernel)
    simp only [Bool.and_eq_true, decide_eq_true_eq] at hp
    exact splitPort_plain hp _
  | v6 words =>
    have hp : ∀ c ∈ (IpAddr.v6 words).chars, c ≠ ']' := by
      rintro c hc rfl
      exact absurd (Net.isAddressChar_of_v6 hc) (by decide)
    have hb := splitPort_brackets hp (Text.digits port.toNat)
    simp only [SocketAddr.hostChars, List.cons_append, List.append_assoc, List.nil_append]
    rw [splitPort]
    simp [hb]

/-- Different addresses have different texts. -/
theorem text_injective : Function.Injective SocketAddr.text := by
  intro a b h
  have hs := splitPort_text a
  rw [h, splitPort_text, Prod.mk.injEq, Option.some.injEq] at hs
  obtain ⟨hh, hp⟩ := hs
  have hn := congrArg Text.ofDigits hp
  rw [Text.ofDigits_digits, Text.ofDigits_digits] at hn
  have hi := Net.SocketAddr.hostChars_inj hh
  obtain ⟨_, p⟩ := a
  obtain ⟨_, q⟩ := b
  cases hi
  cases UInt16.toNat_inj.1 hn
  rfl

theorem readPort_digits (p : UInt16) : readPort (Text.digits p.toNat) = .ok (some p) := by
  have hd : (Text.digits p.toNat).all Char.isDigit = true :=
    List.all_eq_true.2 fun x hx => Text.isDigit_of_mem_digits hx
  have hn : Text.digits p.toNat ≠ [] := Nat.toDigits_ne_nil
  have hlt : p.toNat < 65536 := p.toNat_lt
  simp only [readPort, hd, hn, Text.ofDigits_digits, hlt, Bool.not_true, Bool.false_eq_true,
    if_false, if_true, UInt16.ofNat_toNat]

/-- An address is read as a host with its port, and no path. -/
theorem parse_text (a : SocketAddr) : ∃ host, Url.parse a.text = .ok ⟨host, some a.port, "/"⟩ := by
  obtain ⟨host, hhost⟩ := exists_eq_ok (readHost_hostChars a)
  have hall (p : Char → Bool)
      (h : ∀ i : Fin 128, Net.isTextChar (Char.ofNat i) → p (Char.ofNat i)) :
      ∀ c ∈ a.text.toList, p c = true :=
    fun c hc => Net.forall_isTextChar h (a.isTextChar_of_mem c hc)
  -- Nothing is left out at the end, inside or at the beginning.
  have htrim : a.text.toList.reverse.dropWhile (·.toNat ≤ 32) = a.text.toList.reverse := by
    refine (takeWhile_of_not_head ?_).2
    intro c hc
    have hc' := hall (fun c => !decide (c.toNat ≤ 32)) (by decide +kernel) c
      (List.mem_reverse.1 (List.mem_of_mem_head? hc))
    simpa using hc'
  have hfilter : a.text.toList.filter (fun c => !isIgnored c) = a.text.toList :=
    List.filter_eq_self.2 (hall (fun c => !isIgnored c) (by decide +kernel))
  have hslash : a.text.toList.dropWhile isSlash = a.text.toList := by
    refine (takeWhile_of_not_head ?_).2
    intro c hc
    have hc' := hall (fun c => !isSlash c) (by decide +kernel) c (List.mem_of_mem_head? hc)
    simpa using hc'
  have hauthority := @span_append _ _ _ []
    (hall (fun c => !endsAuthority c) (by decide +kernel)) nofun
  have huser : afterUser a.text.toList = a.text.toList := by
    have hall : ∀ c ∈ a.text.toList.reverse, decide (c ≠ '@') = true := fun c hc =>
      hall (fun c => c ≠ '@') (by decide +kernel) c (List.mem_reverse.1 hc)
    have hspan := (@span_append _ _ _ [] hall nofun).1
    rw [List.append_nil] at hspan
    rw [afterUser, hspan, List.reverse_reverse]
  rw [List.append_nil] at hauthority
  refine ⟨host, ?_⟩
  simp only [Url.parse, htrim, List.reverse_reverse, hfilter, hslash, hauthority, huser,
    splitPort_text, hhost, Option.getD_some, readPort_digits]
  rfl

end TokenGate.Http.Url
