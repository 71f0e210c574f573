import TokenGate.Text.Utf8
/-!
The encoding of texts, character by character. A character of ASCII is one byte.
-/
namespace TokenGate.Utf8

theorem length_encode (s : String) : (encode s).length = s.utf8ByteSize := rfl

theorem encode_append (s t : String) : encode (s ++ t) = encode s ++ encode t := by
  simp [encode]

theorem encode_singleton {c : Char} (h : c.toNat < 128) :
    encode (String.singleton c) = [UInt8.ofNat c.toNat] := by
  have hc : String.utf8EncodeChar c = [UInt8.ofNat c.toNat] := by
    simp only [String.utf8EncodeChar]
    exact if_pos (Nat.le_of_lt_succ h)
  simp [encode, List.utf8Encode_singleton, hc]

theorem encode_ofList {cs : List Char} (h : ∀ c ∈ cs, c.toNat < 128) :
    encode (String.ofList cs) = cs.map fun c => UInt8.ofNat c.toNat := by
  induction cs with
  | nil => rfl
  | cons c cs ih =>
    rw [List.forall_mem_cons] at h
    rw [String.ofList_cons, encode_append, encode_singleton h.1, ih h.2]
    rfl

/-- Every character that is not of ASCII has a byte that is not. -/
theorem exists_mem_encode_singleton {c : Char} (h : 128 ≤ c.toNat) :
    ∃ b ∈ encode (String.singleton c), 0x80 ≤ b := by
  have hc : encode (String.singleton c) = String.utf8EncodeChar c := by
    simp [encode, List.utf8Encode_singleton]
  have hl : c.toNat % 64 + 128 < 256 := by omega
  have hv : (UInt8.ofNat (c.toNat % 64 + 128)).toNat = c.toNat % 64 + 128 :=
    UInt8.toNat_ofNat_of_lt hl
  have hb : 0x80 ≤ UInt8.ofNat (c.toNat % 64 + 128) := by
    rw [UInt8.le_iff_toNat_le, hv]
    exact Nat.le_add_left _ _
  have hn : ¬ c.val.toNat ≤ 127 := Nat.not_le.2 h
  refine ⟨_, ?_, hb⟩
  rw [hc, String.utf8EncodeChar, if_neg hn]
  split
  · exact List.mem_of_getLast? rfl
  · split
    · exact List.mem_of_getLast? rfl
    · exact List.mem_of_getLast? rfl

/-- A text whose bytes are all of ASCII has no other characters. -/
theorem toNat_lt_of_encode {cs : List Char} (h : ∀ b ∈ encode (String.ofList cs), b < 0x80) :
    ∀ c ∈ cs, c.toNat < 128 := by
  induction cs with
  | nil => exact List.forall_mem_nil _
  | cons c cs ih =>
    rw [String.ofList_cons, encode_append, List.forall_mem_append] at h
    refine List.forall_mem_cons.2 ⟨?_, ih h.2⟩
    apply Nat.lt_of_not_le
    intro hc
    obtain ⟨b, hb, hl⟩ := exists_mem_encode_singleton hc
    exact absurd (h.1 b hb) (UInt8.not_lt.2 hl)

/-- A character of ASCII is the one of its byte. -/
theorem ofNat_toNat {c : Char} (h : c.toNat < 128) :
    Char.ofNat (UInt8.ofNat c.toNat).toNat = c := by
  have ht : (UInt8.ofNat c.toNat).toNat = c.toNat :=
    UInt8.toNat_ofNat_of_lt (Nat.lt_trans h (by decide))
  rw [ht, Char.ofNat_toNat]

theorem toNat_ofNat {n : Nat} (h : n < 128) : (Char.ofNat n).toNat = n := by
  rw [Char.ofNat, dif_pos (.inl (Nat.lt_trans h (by decide)))]
  rfl

/-- Bytes of ASCII encode the characters of the same numbers. -/
theorem encode_ofBytes {b : Bytes} (h : ∀ x ∈ b, x < 0x80) :
    encode (String.ofList (b.map fun x => Char.ofNat x.toNat)) = b := by
  have hn : ∀ x ∈ b, x.toNat < 128 := fun x hx => UInt8.lt_iff_toNat_lt.1 (h x hx)
  have hc : ∀ c ∈ b.map (fun x => Char.ofNat x.toNat), c.toNat < 128 := by
    intro c hc
    obtain ⟨x, hx, rfl⟩ := List.mem_map.1 hc
    rw [toNat_ofNat (hn x hx)]
    exact hn x hx
  have hx : ∀ x ∈ b, UInt8.ofNat (Char.ofNat x.toNat).toNat = x := by
    intro x hx
    rw [toNat_ofNat (hn x hx), UInt8.ofNat_toNat]
  rw [encode_ofList hc, List.map_map]
  exact (List.map_congr_left hx).trans (List.map_id' b)

end TokenGate.Utf8
