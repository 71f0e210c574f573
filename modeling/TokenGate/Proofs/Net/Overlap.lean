import TokenGate.Net.Overlap
import TokenGate.Proofs.Basic
/-!
Hosts that have an address in common. Of two hosts that are written differently and stand for
themselves only, one must be an address of the older kind in the form of the newer kind.
-/
namespace TokenGate.Net.IpAddr

/-- Whether an address of the newer kind stands for one of the older kind. -/
def isMapped (a : IpAddr) : Bool := !a.isV4 && a.canonical.isV4

/-- A mapped address that, as an address of the older kind, is another host or covers it. -/
def Disguises (a b : IpAddr) : Prop :=
  a.isMapped ∧ (a.canonical = b.canonical ∨ a.canonical.isUnspecified ∧ b.canonical.isV4)

instance (a b : IpAddr) : Decidable (a.Disguises b) :=
  inferInstanceAs (Decidable (a.isMapped ∧
    (a.canonical = b.canonical ∨ a.canonical.isUnspecified ∧ b.canonical.isV4)))

variable {a b x : IpAddr}

theorem canonical_v6 (s : Vector UInt16 8) :
    (v6 s).canonical.isV4 ∨ (v6 s).canonical = v6 s := by
  simp only [canonical]
  split
  · exact .inl rfl
  · exact .inr rfl

theorem canonical_of_not_mapped (h : ¬ a.isMapped) : a.canonical = a := by
  cases a with
  | v4 => rfl
  | v6 s =>
    rcases canonical_v6 s with hv | he
    · rw [isMapped, hv] at h
      exact absurd rfl h
    · exact he

theorem isV4_of_mapped (h : a.isMapped) : a.canonical.isV4 := by
  rw [isMapped, Bool.and_eq_true] at h
  exact h.2

theorem covers_iff : a.covers x ↔
    a.canonical = x.canonical ∨
      a.canonical.isUnspecified ∧ (a.canonical.isV4 → x.canonical.isV4) := by
  simp only [covers, Bool.or_eq_true, Bool.and_eq_true, beq_iff_eq, Bool.not_eq_true',
    ← Bool.not_eq_true, imp_iff_not_or]

theorem covers_self (a : IpAddr) : a.covers a := covers_iff.2 (.inl rfl)

theorem covers_congr (h : x.canonical = b.canonical) : a.covers x ↔ a.covers b := by
  rw [covers_iff, covers_iff, h]

theorem overlaps_iff_covers : a.overlaps b ↔ a.covers b ∨ b.covers a := by
  rw [overlaps, Bool.or_eq_true]

/-- Two unspecified addresses cover each other, or the one of the newer kind covers the other. -/
theorem covers_of_unspecified (ha : a.canonical.isUnspecified) (hb : b.canonical.isUnspecified) :
    a.covers b ∨ b.covers a := by
  by_cases h : a.canonical.isV4 → b.canonical.isV4
  · exact .inl (covers_iff.2 (.inr ⟨ha, h⟩))
  · obtain ⟨-, hv⟩ := Classical.not_imp.1 h
    exact .inr (covers_iff.2 (.inr ⟨hb, fun h => absurd h hv⟩))

theorem overlaps_iff : a.overlaps b ↔ ∃ x, a.covers x ∧ b.covers x := by
  rw [overlaps_iff_covers]
  constructor
  · rintro (h | h)
    · exact ⟨b, h, covers_self b⟩
    · exact ⟨a, covers_self a, h⟩
  · rintro ⟨x, ha, hb⟩
    rcases covers_iff.1 ha with he | ⟨hua, -⟩
    · exact .inr ((covers_congr he.symm).1 hb)
    rcases covers_iff.1 hb with he | ⟨hub, -⟩
    · exact .inl ((covers_congr he.symm).1 ha)
    · exact covers_of_unspecified hua hub

theorem Disguises.covers (h : a.Disguises b) : a.covers b := by
  apply covers_iff.2
  obtain ⟨-, he | ⟨hu, hv⟩⟩ := h
  · exact .inl he
  · exact .inr ⟨hu, fun _ => hv⟩

/-- A host that covers another is that host or unspecified, unless it disguises it or is disguised
by it. -/
theorem disguises_of_covers (hne : a ≠ b) (ha : ¬ a.isUnspecified) (h : a.covers b) :
    a.Disguises b ∨ b.Disguises a := by
  by_cases hm : a.isMapped
  · refine .inl ⟨hm, ?_⟩
    exact (covers_iff.1 h).imp_right fun ⟨hu, hv⟩ => ⟨hu, hv (isV4_of_mapped hm)⟩
  · rcases covers_iff.1 h with he | ⟨hu, -⟩
    · refine .inr ⟨?_, .inl he.symm⟩
      apply Classical.byContradiction
      intro hn
      rw [canonical_of_not_mapped hm, canonical_of_not_mapped hn] at he
      exact hne he
    · rw [canonical_of_not_mapped hm] at hu
      exact absurd hu ha

theorem overlaps_iff_disguises (hne : a ≠ b) (ha : ¬ a.isUnspecified) (hb : ¬ b.isUnspecified) :
    a.overlaps b ↔ a.Disguises b ∨ b.Disguises a := by
  rw [overlaps_iff_covers]
  constructor
  · rintro (h | h)
    · exact disguises_of_covers hne ha h
    · exact (disguises_of_covers hne.symm hb h).symm
  · exact Or.imp Disguises.covers Disguises.covers

end TokenGate.Net.IpAddr
