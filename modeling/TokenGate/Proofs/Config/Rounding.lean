import TokenGate.Proofs.Config.Saving
import TokenGate.Proofs.Config.Validation
/-!
Configurations of any tolerance, saved and loaded again. The text has the whole milliseconds of the
tolerance; there may be none of them, or too many for what is read.
-/
namespace TokenGate.Config

variable {c saved : Config}

/-- A configuration that is another one without less than a millisecond of its tolerance. -/
structure Truncates (saved c : Config) : Prop where
  http : saved.http = c.http
  websocket : saved.websocket = c.websocket
  auth : saved.auth = { c.auth with tolerance := saved.auth.tolerance }
  le : saved.auth.tolerance ≤ c.auth.tolerance
  lt : c.auth.tolerance.toNanos < saved.auth.tolerance.toNanos + 1000000

def floorTolerance (c : Config) : Config :=
  { c with auth := { c.auth with tolerance := c.auth.tolerance.floorMillis } }

theorem toJson_floorTolerance (c : Config) : c.floorTolerance.toJson = c.toJson := by
  simp only [toJson, Auth.toJson, floorTolerance, Duration.text_floorMillis]

theorem truncates_floorTolerance (c : Config) : c.floorTolerance.Truncates c where
  http := rfl
  websocket := rfl
  auth := rfl
  le := by
    change c.auth.tolerance.floorMillis.toNanos ≤ c.auth.tolerance.toNanos
    rw [Duration.toNanos_floorMillis]
    exact c.auth.tolerance.toNanos_millis.1
  lt := by
    change _ < c.auth.tolerance.floorMillis.toNanos + 1000000
    rw [Duration.toNanos_floorMillis]
    exact c.auth.tolerance.toNanos_millis.2

/-- What the text has can be read unless it is a number of milliseconds that is too large. -/
theorem decode_floorTolerance_iff : decoder.decode c.toJson.text = .ok c.floorTolerance ↔
    c.auth.tolerance.subsecMillis = 0 ∨ c.auth.tolerance.millis < 0x1_0000_0000_0000_0000 := by
  rw [← toJson_floorTolerance, decode_text_iff]
  exact Duration.denoted_floorMillis_iff

theorem Truncates.eq_floorTolerance (h : saved.Truncates c)
    (hd : decoder.decode c.toJson.text = .ok saved) : saved = c.floorTolerance := by
  have ht := (decoder_yields.of_decode hd).eq_floorMillis h.le h.lt
  obtain ⟨http, websocket, auth⟩ := saved
  obtain ⟨rfl, rfl, ha, -, -⟩ := h
  rw [floorTolerance, ← ht, ← ha]

/-- A valid configuration stays valid without a part of its tolerance, but not without all of it. -/
theorem validate_floorTolerance_iff (h : c.validate = .ok ()) :
    c.floorTolerance.validate = .ok () ↔ 1000000 ≤ c.auth.tolerance.toNanos := by
  obtain ⟨hw, -, hm, hb⟩ := validate_eq_ok_iff.1 h
  have hn : c.floorTolerance.auth.tolerance.toNanos = c.auth.tolerance.millis * 1000000 :=
    c.auth.tolerance.toNanos_floorMillis
  have hd := c.auth.tolerance.toNanos_millis
  rw [validate_eq_ok_iff, hn]
  constructor
  · rintro ⟨-, hz, -⟩
    omega
  · intro hz
    exact ⟨hw, by omega, hm, hb⟩

/-- What is saved is loaded again as a valid configuration. -/
def SavesValid (c : Config) : Prop :=
  ∃ saved, decoder.decode c.toJson.text = .ok saved ∧ saved.validate = .ok () ∧ saved.Truncates c

/-- Saving keeps a valid configuration valid exactly if its tolerance has a whole millisecond and is
written in seconds, or in milliseconds that are not too many. -/
theorem savesValid_iff (h : c.validate = .ok ()) : c.SavesValid ↔
    1000000 ≤ c.auth.tolerance.toNanos ∧
      (c.auth.tolerance.subsecMillis = 0 ∨
        c.auth.tolerance.millis < 0x1_0000_0000_0000_0000) := by
  constructor
  · rintro ⟨saved, hd, hv, ht⟩
    obtain rfl := ht.eq_floorTolerance hd
    exact ⟨(validate_floorTolerance_iff h).1 hv, decode_floorTolerance_iff.1 hd⟩
  · rintro ⟨hv, hd⟩
    exact ⟨c.floorTolerance, decode_floorTolerance_iff.2 hd, (validate_floorTolerance_iff h).2 hv,
      truncates_floorTolerance c⟩

/-- The most seconds that there are, and not quite a millisecond more. -/
theorem savesValid_iff_longest :
    let c : Config := {
      auth := { tolerance := ⟨0xFFFF_FFFF_FFFF_FFFF, 999999, by decide, by decide⟩ } }
    c.validate = .ok () ∧ c.SavesValid := by
  intro c
  have hv : c.validate = .ok () := validate_eq_ok_iff.2 (by decide +kernel)
  exact ⟨hv, (savesValid_iff hv).2 ⟨by decide, .inl (by decide)⟩⟩

/-- Half a millisecond is written as no seconds, and `2 ^ 64` milliseconds are not read. -/
theorem not_savesValid :
    let half : Config := { auth := { tolerance := ⟨0, 500000, by decide, by decide⟩ } }
    let long : Config := {
      auth := { tolerance := ⟨18446744073709551, 616000000, by decide, by decide⟩ } }
    half.validate = .ok () ∧ ¬ half.SavesValid ∧ long.validate = .ok () ∧ ¬ long.SavesValid := by
  intro half long
  have hh : half.validate = .ok () := validate_eq_ok_iff.2 (by decide +kernel)
  have hl : long.validate = .ok () := validate_eq_ok_iff.2 (by decide +kernel)
  refine ⟨hh, ?half, hl, ?long⟩
  case half =>
    rintro ⟨saved, hd, hv, ht⟩
    obtain rfl := ht.eq_floorTolerance hd
    exact absurd ((validate_floorTolerance_iff hh).1 hv) (by decide)
  case long =>
    rintro ⟨saved, hd, -, ht⟩
    obtain rfl := ht.eq_floorTolerance hd
    exact absurd (decode_floorTolerance_iff.1 hd) (by decide)

end TokenGate.Config
