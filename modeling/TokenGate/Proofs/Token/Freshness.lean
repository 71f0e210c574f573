import TokenGate.Token.Validator
/-!
Freshness in whole nanoseconds: every time of issue is a point in time, and a token is fresh exactly
if the distance of that point to the clock does not exceed the tolerance.
-/
namespace TokenGate

namespace Instant

variable {a b : Instant} {d : Duration}

/-- How the span from one point to another is found, place by place. A second is borrowed if there
are too few nanoseconds; nothing is cut off. -/
inductive Subtracted (a b : Instant) (d : Duration) : Prop where
  | plain (hn : a.nanos ≤ b.nanos) (hs : (d.seconds : Int) = b.seconds - a.seconds)
      (hd : d.nanos + a.nanos = b.nanos)
  | borrowed (hn : b.nanos < a.nanos) (hs : (d.seconds : Int) = b.seconds - a.seconds - 1)
      (hd : d.nanos + a.nanos = b.nanos + 1000000000) (hw : b.nanos + 1000000000 < 0x1_0000_0000)

theorem span_subtracted (h : a.toNanos ≤ b.toNanos) : Subtracted a b (span a b) := by
  have ha := a.nanos_lt
  have hb := b.nanos_lt
  simp only [toNanos] at h
  unfold span
  split
  · next hn =>
    refine .plain hn ?_ (Nat.sub_add_cancel hn)
    simp only
    omega
  · next hn =>
    refine .borrowed (Nat.lt_of_not_le hn) ?_ ?_ ?_
    · simp only
      omega
    · simp only
      omega
    · omega

theorem Subtracted.toNanos (h : Subtracted a b d) : (d.toNanos : Int) = b.toNanos - a.toNanos := by
  simp only [Duration.toNanos, Instant.toNanos]
  cases h with
  | plain => omega
  | borrowed => omega

/-- The earlier of two points is taken from the later one. -/
theorem distance_subtracted (a b : Instant) :
    (a.toNanos ≤ b.toNanos → Subtracted a b (a.distance b)) ∧
      (b.toNanos < a.toNanos → Subtracted b a (a.distance b)) := by
  unfold distance
  constructor
  · intro h
    rw [if_pos h]
    exact span_subtracted h
  · intro h
    rw [if_neg (Int.not_le.2 h)]
    exact span_subtracted (Int.le_of_lt h)

/-- The span between two points is the absolute value of their difference. -/
theorem toNanos_distance (a b : Instant) :
    (a.distance b).toNanos = (a.toNanos - b.toNanos).natAbs := by
  obtain ⟨hle, hlt⟩ := distance_subtracted a b
  by_cases h : a.toNanos ≤ b.toNanos
  · have hs := (hle h).toNanos
    omega
  · have hs := (hlt (Int.not_le.1 h)).toNanos
    omega

theorem ofParts?_eq_some {s : Int} {n : Nat} (hs : InRange s) (hn : n < 1000000000) :
    ofParts? s n = some ⟨s, n, hs, hn⟩ := dif_pos ⟨hs, hn⟩

theorem epoch_add?_ofSeconds (n : Nat) (h : n < 0x1_0000_0000_0000_0000) :
    epoch.add? (.ofSeconds n h) = ofParts? (0 + n) 0 :=
  if_pos Duration.zero_nanos_lt

theorem epoch_sub?_ofSeconds (n : Nat) (h : n < 0x1_0000_0000_0000_0000) :
    epoch.sub? (.ofSeconds n h) = ofParts? (0 - n) 0 :=
  if_pos (Nat.le_refl 0)

end Instant

namespace Token

/-- Whether a time of issue differs from the clock by no more than the tolerance. -/
def Fresh (iat : Int64) (now : Instant) (tolerance : Duration) : Prop :=
  (now.toNanos - iat.toInt * 1000000000).natAbs ≤ tolerance.toNanos

instance (iat : Int64) (now : Instant) (tolerance : Duration) :
    Decidable (Fresh iat now tolerance) :=
  inferInstanceAs (Decidable (_ ≤ _))

theorem inRange_toInt (iat : Int64) : Instant.InRange iat.toInt := ⟨iat.le_toInt, iat.toInt_lt⟩

/-- Every time of issue is a point in time. -/
theorem issueTime?_eq (iat : Int64) :
    issueTime? iat = some ⟨iat.toInt, 0, inRange_toInt iat, Duration.zero_nanos_lt⟩ := by
  have hr := inRange_toInt iat
  unfold issueTime?
  split
  · next h =>
    have he : 0 + (iat.toInt.toNat : Int) = iat.toInt := by omega
    rw [Instant.epoch_add?_ofSeconds, he, Instant.ofParts?_eq_some hr Duration.zero_nanos_lt]
  · next h =>
    have he : 0 - ((-iat.toInt).toNat : Int) = iat.toInt := by omega
    rw [Instant.epoch_sub?_ofSeconds, he, Instant.ofParts?_eq_some hr Duration.zero_nanos_lt]

theorem checkFreshness_eq (iat : Int64) (now : Instant) (tolerance : Duration) :
    checkFreshness iat now tolerance =
      if Fresh iat now tolerance then .ok () else .error .clockSkewExceeded := by
  have hn : iat.toInt * 1000000000 =
      (Instant.mk iat.toInt 0 (inRange_toInt iat) Duration.zero_nanos_lt).toNanos :=
    (Int.add_zero _).symm
  simp only [checkFreshness, issueTime?_eq, Fresh, hn, ← Instant.toNanos_distance]
  rfl

/-- Freshness is decided without rounding, whatever the times and the tolerance are: the time of
issue is the very point it says, seconds and nanoseconds are subtracted without loss, and the
tolerance itself is still fresh. -/
theorem checkFreshness_exact (iat : Int64) (now : Instant) (tolerance : Duration) :
    (checkFreshness iat now tolerance = .ok () ↔
      (now.toNanos - iat.toInt * 1000000000).natAbs ≤ tolerance.toNanos) ∧
    (checkFreshness iat now tolerance = .error .clockSkewExceeded ↔
      tolerance.toNanos < (now.toNanos - iat.toInt * 1000000000).natAbs) ∧
    iat.toInt.natAbs < 0x1_0000_0000_0000_0000 ∧
    ∃ issued, issueTime? iat = some issued ∧ issued.seconds = iat.toInt ∧ issued.nanos = 0 ∧
      (now.toNanos ≤ issued.toNanos → now.Subtracted issued (now.distance issued)) ∧
      (issued.toNanos < now.toNanos → issued.Subtracted now (now.distance issued)) := by
  have hr := inRange_toInt iat
  refine ⟨?ok, ?error, by omega, _, issueTime?_eq iat, rfl, rfl,
    Instant.distance_subtracted now _⟩
  case ok =>
    rw [checkFreshness_eq]
    split
    · next hf => exact iff_of_true rfl hf
    · next hf => exact iff_of_false nofun hf
  case error =>
    rw [checkFreshness_eq, ← Nat.not_le]
    split
    · next hf => exact iff_of_false nofun (not_not_intro hf)
    · next hf => exact iff_of_true rfl hf

/-- The greatest distance in whole seconds, which a tolerance can just span. -/
example : checkFreshness Int64.minValue ⟨0x7fff_ffff_ffff_ffff, 0, by decide, by decide⟩
    (.ofSeconds 0xffff_ffff_ffff_ffff) = .ok () := by cbv

end Token

end TokenGate
