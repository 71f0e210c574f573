import TokenGate.Encoding.Base64Url
/-!
Base64 is canonical: every sequence of bytes has exactly one text, and reading accepts no other.
-/
namespace TokenGate.Base64Url

theorem length_alphabet : alphabet.length = 64 := by decide +kernel

theorem value?_symbol (h : n < 64) : value? (symbol n) = some n := by
  have hall : ∀ i : Fin 64, value? (symbol i) = some i.val := by decide +kernel
  exact hall ⟨n, h⟩

theorem symbol_of_value? (h : value? c = some v) : v < 64 ∧ symbol v = c := by
  obtain ⟨hv, hc, -⟩ := List.idxOf?_eq_some_iff.1 h
  refine ⟨length_alphabet ▸ hv, ?_⟩
  rw [symbol, List.getD_eq_getElem?_getD, List.getElem?_eq_getElem hv, Option.getD_some, hc]

theorem symbol_mem (n : Nat) : symbol n ∈ alphabet := by
  rw [symbol, List.getD_eq_getElem?_getD]
  cases h : alphabet[n]? with
  | none => decide +kernel
  | some c => exact List.mem_of_getElem? h

theorem mem_alphabet_of_mem_encodeChars {b : Bytes} : ∀ c ∈ encodeChars b, c ∈ alphabet := by
  fun_induction encodeChars b with
  | case1 a b c rest n ih =>
    simp only [List.forall_mem_cons]
    exact ⟨symbol_mem _, symbol_mem _, symbol_mem _, symbol_mem _, ih⟩
  | case2 a b n =>
    simp only [List.forall_mem_cons]
    exact ⟨symbol_mem _, symbol_mem _, symbol_mem _, nofun⟩
  | case3 a n =>
    simp only [List.forall_mem_cons]
    exact ⟨symbol_mem _, symbol_mem _, nofun⟩
  | case4 => exact nofun

/-- The point that divides the parts of a token is no symbol. -/
theorem point_notMem_encodeChars (b : Bytes) : '.' ∉ encodeChars b :=
  fun h => absurd (mem_alphabet_of_mem_encodeChars _ h) (by decide +kernel)

theorem decodeChars?_encodeChars (b : Bytes) : decodeChars? (encodeChars b) = some b := by
  fun_induction encodeChars b with
  | case1 a b c rest n ih =>
    have ha := a.toNat_lt
    have hb := b.toNat_lt
    have hc := c.toNat_lt
    have hn : ((n / 262144 * 64 + n / 4096 % 64) * 64 + n / 64 % 64) * 64 + n % 64 = n := by omega
    have h₁ : n / 65536 = a.toNat := by omega
    have h₂ : n / 256 % 256 = b.toNat := by omega
    have h₃ : n % 256 = c.toNat := by omega
    have h₀ : n / 262144 < 64 := by omega
    have hm (k : Nat) : k % 64 < 64 := Nat.mod_lt _ (by decide)
    simp only [decodeChars?, value?_symbol h₀, value?_symbol (hm _), ih, hn, h₁, h₂, h₃,
      UInt8.ofNat_toNat, Option.pure_def, Option.bind_eq_bind, Option.bind_some]
  | case2 a b n =>
    have ha := a.toNat_lt
    have hb := b.toNat_lt
    have hn : (n / 4096 * 64 + n / 64 % 64) * 64 + n % 64 = n := by omega
    have h₁ : n / 1024 = a.toNat := by omega
    have h₂ : n / 4 % 256 = b.toNat := by omega
    have h₀ : n / 4096 < 64 := by omega
    have hz : n % 4 = 0 := by omega
    have hm (k : Nat) : k % 64 < 64 := Nat.mod_lt _ (by decide)
    simp only [decodeChars?, value?_symbol h₀, value?_symbol (hm _), hn, h₁, h₂, hz, ↓reduceIte,
      UInt8.ofNat_toNat, Option.bind_eq_bind, Option.bind_some]
  | case3 a n =>
    have ha := a.toNat_lt
    have hn : n / 64 * 64 + n % 64 = n := by omega
    have h₁ : n / 16 = a.toNat := by omega
    have h₀ : n / 64 < 64 := by omega
    have hz : n % 16 = 0 := by omega
    have hm : n % 64 < 64 := Nat.mod_lt _ (by decide)
    simp only [decodeChars?, value?_symbol h₀, value?_symbol hm, hn, h₁, hz, ↓reduceIte,
      UInt8.ofNat_toNat, Option.bind_eq_bind, Option.bind_some]
  | case4 => rfl

theorem toNat_byte (h : n < 256) : (UInt8.ofNat n).toNat = n := UInt8.toNat_ofNat_of_lt h

theorem eq_encodeChars_of_decodeChars? (h : decodeChars? cs = some b) : cs = encodeChars b := by
  fun_induction decodeChars? cs generalizing b with
  | case1 c₁ c₂ c₃ c₄ rest ih =>
    simp only [Option.bind_eq_bind, Option.bind_eq_some_iff, Option.pure_def,
      Option.some.injEq] at h
    obtain ⟨v₁, h₁, v₂, h₂, v₃, h₃, v₄, h₄, tail, ht, rfl⟩ := h
    obtain ⟨hv₁, rfl⟩ := symbol_of_value? h₁
    obtain ⟨hv₂, rfl⟩ := symbol_of_value? h₂
    obtain ⟨hv₃, rfl⟩ := symbol_of_value? h₃
    obtain ⟨hv₄, rfl⟩ := symbol_of_value? h₄
    generalize hn : ((v₁ * 64 + v₂) * 64 + v₃) * 64 + v₄ = n
    have ha : (UInt8.ofNat (n / 65536)).toNat = n / 65536 := toNat_byte (by omega)
    have hb : (UInt8.ofNat (n / 256 % 256)).toNat = n / 256 % 256 :=
      toNat_byte (by omega)
    have hc : (UInt8.ofNat (n % 256)).toNat = n % 256 := toNat_byte (by omega)
    have hm : (n / 65536 * 256 + n / 256 % 256) * 256 + n % 256 = n := by omega
    have e₁ : n / 262144 = v₁ := by omega
    have e₂ : n / 4096 % 64 = v₂ := by omega
    have e₃ : n / 64 % 64 = v₃ := by omega
    have e₄ : n % 64 = v₄ := by omega
    simp only [encodeChars, ha, hb, hc, hm, e₁, e₂, e₃, e₄, ih ht]
  | case2 c₁ c₂ c₃ =>
    simp only [Option.bind_eq_bind, Option.bind_eq_some_iff, Option.ite_none_right_eq_some,
      Option.some.injEq] at h
    obtain ⟨v₁, h₁, v₂, h₂, v₃, h₃, hz, rfl⟩ := h
    obtain ⟨hv₁, rfl⟩ := symbol_of_value? h₁
    obtain ⟨hv₂, rfl⟩ := symbol_of_value? h₂
    obtain ⟨hv₃, rfl⟩ := symbol_of_value? h₃
    generalize hn : (v₁ * 64 + v₂) * 64 + v₃ = n at hz
    have ha : (UInt8.ofNat (n / 1024)).toNat = n / 1024 := toNat_byte (by omega)
    have hb : (UInt8.ofNat (n / 4 % 256)).toNat = n / 4 % 256 :=
      toNat_byte (by omega)
    have hm : (n / 1024 * 256 + n / 4 % 256) * 4 = n := by omega
    have e₁ : n / 4096 = v₁ := by omega
    have e₂ : n / 64 % 64 = v₂ := by omega
    have e₃ : n % 64 = v₃ := by omega
    simp only [encodeChars, ha, hb, hm, e₁, e₂, e₃]
  | case3 c₁ c₂ =>
    simp only [Option.bind_eq_bind, Option.bind_eq_some_iff, Option.ite_none_right_eq_some,
      Option.some.injEq] at h
    obtain ⟨v₁, h₁, v₂, h₂, hz, rfl⟩ := h
    obtain ⟨hv₁, rfl⟩ := symbol_of_value? h₁
    obtain ⟨hv₂, rfl⟩ := symbol_of_value? h₂
    generalize hn : v₁ * 64 + v₂ = n at hz
    have ha : (UInt8.ofNat (n / 16)).toNat = n / 16 := toNat_byte (by omega)
    have hm : n / 16 * 16 = n := by omega
    have e₁ : n / 64 = v₁ := by omega
    have e₂ : n % 64 = v₂ := by omega
    simp only [encodeChars, ha, hm, e₁, e₂]
  | case4 => cases h
  | case5 =>
    cases h
    rfl

/-- Reading accepts exactly what writing produces. -/
theorem decodeChars?_eq_some_iff : decodeChars? cs = some b ↔ cs = encodeChars b :=
  ⟨eq_encodeChars_of_decodeChars?, fun h => h ▸ decodeChars?_encodeChars b⟩

theorem decode?_eq_some_iff : decode? s = some b ↔ s = encode b := by
  rw [decode?, decodeChars?_eq_some_iff, encode, ← String.toList_inj, String.toList_ofList]

end TokenGate.Base64Url
