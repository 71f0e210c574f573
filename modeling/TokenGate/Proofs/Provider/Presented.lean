import TokenGate.Proofs.Provider
/-!
The verdict on every token that a provider presents. Clocks count nanoseconds and tokens are dated
in whole seconds, so the token of a moment may itself be a fraction of a second off.
-/
namespace TokenGate

namespace Instant

/-- What is left of a second is dropped, before the epoch as well as after it. -/
theorem unixSeconds_eq (t : Instant) : t.unixSeconds = t.toNanos.tdiv 1000000000 := by
  have hn := t.nanos_lt
  have hs : Int.sign 1000000000 = 1 := rfl
  rw [unixSeconds, toNanos, Int.tdiv_eq_ediv, hs]
  split
  · split <;> omega
  · split <;> omega

theorem inRange_unixSeconds (t : Instant) : InRange t.unixSeconds := by
  have hr := t.inRange
  unfold unixSeconds
  split <;> omega

theorem toInt_unixSeconds (t : Instant) : (Int64.ofInt t.unixSeconds).toInt = t.unixSeconds :=
  Int64.toInt_ofInt_of_le t.inRange_unixSeconds.1 t.inRange_unixSeconds.2

theorem natAbs_sub_unixSeconds_lt (t : Instant) :
    (t.toNanos - t.unixSeconds * 1000000000).natAbs < 1000000000 := by
  have hn := t.nanos_lt
  rw [unixSeconds, toNanos]
  split <;> omega

end Instant

namespace Provider

open Http (Headers)
open Token (Fresh)

/-- The time of issue of a token that is signed with an offset: the whole seconds of the clock and
the offset, as near to their sum as 64 bits come. -/
def issueSeconds (now : Instant) (offset : Int64) : Int :=
  max (-0x8000_0000_0000_0000)
    (min 0x7fff_ffff_ffff_ffff (now.toNanos.tdiv 1000000000 + offset.toInt))

theorem toInt_saturatingAdd (now : Instant) (offset : Int64) :
    (saturatingAdd (Int64.ofInt now.unixSeconds) offset).toInt = issueSeconds now offset := by
  rw [saturatingAdd, now.toInt_unixSeconds, now.unixSeconds_eq, issueSeconds]
  apply Int64.toInt_ofInt_of_le <;> omega

theorem issueSeconds_zero (now : Instant) :
    issueSeconds now 0 = now.toNanos.tdiv 1000000000 := by
  have hr := now.inRange_unixSeconds
  rw [now.unixSeconds_eq] at hr
  have hz : (0 : Int64).toInt = 0 := rfl
  rw [issueSeconds, hz]
  omega

variable {now : Instant} {iat : Int64} {tolerance : Duration}

/-- A token without an offset is fresh if the tolerance is a second. -/
theorem fresh_of_issueSeconds_zero (hi : iat.toInt = issueSeconds now 0)
    (ht : .ofSeconds 1 ≤ tolerance) : Fresh iat now tolerance := by
  have hd := now.natAbs_sub_unixSeconds_lt
  have ht : 1000000000 ≤ tolerance.toNanos := ht
  rw [now.unixSeconds_eq, ← issueSeconds_zero, ← hi] at hd
  exact Nat.le_trans (Nat.le_of_lt hd) ht

/-- Providers never fail, and the verdict on what they present is that of the secret and the
offset: fresh or not with the right secret, a bad signature with one that signs differently, and
always the wrong algorithm without a signature. -/
theorem presented_verdict (now : Instant) (fields : Headers) (key : Secret)
    (tolerance : Duration) :
    (∀ secret offset, ∃ iat : Int64,
      let token := Token.encode secret (.issuedAt iat)
      let input := Token.signingInput "HS256" (.issuedAt iat)
      iat.toInt = issueSeconds now offset ∧
      (signed secret offset).Presents now fields token ∧
      (secret = key → Token.validate key token now tolerance =
        if (now.toNanos - issueSeconds now offset * 1000000000).natAbs ≤ tolerance.toNanos
        then .ok (.issuedAt iat) else .error .clockSkewExceeded) ∧
      (offset = 0 → issueSeconds now offset = now.toNanos.tdiv 1000000000 ∧
        (secret = key → .ofSeconds 1 ≤ tolerance →
          Token.validate key token now tolerance = .ok (.issuedAt iat))) ∧
      (Token.sign secret input ≠ Token.sign key input →
        Token.validate key token now tolerance = .error .badSignature)) ∧
    ∃ iat : Int64,
      let token := Token.encodeUnsigned (.issuedAt iat)
      iat.toInt = now.toNanos.tdiv 1000000000 ∧
      unsigned.Presents now fields token ∧
      Token.validate key token now tolerance = .error .algorithmNotAllowed := by
  constructor
  · intro secret offset
    refine ⟨_, toInt_saturatingAdd now offset, presents_signed secret offset now fields, ?_⟩
    generalize hiat : saturatingAdd (Int64.ofInt now.unixSeconds) offset = iat
    have hi : iat.toInt = issueSeconds now offset := by
      rw [← hiat, toInt_saturatingAdd]
    have hp := Token.plain_issuedAt iat
    have hv : Token.validate secret (Token.encode secret (.issuedAt iat)) now tolerance =
        if Fresh iat now tolerance then .ok (.issuedAt iat) else .error .clockSkewExceeded :=
      Token.validate_encode hp rfl secret now tolerance
    refine ⟨?_, ?_, ?_⟩
    · rintro rfl
      rw [hv, ← hi]
      rfl
    · rintro rfl
      refine ⟨issueSeconds_zero now, ?_⟩
      rintro rfl ht
      rw [hv, if_pos (fresh_of_issueSeconds_zero hi ht)]
    · intro hs
      exact Token.validate_of_other_signature hp rfl hs now tolerance
  · refine ⟨_, ?_, presents_unsigned now fields, ?_⟩
    · rw [now.toInt_unixSeconds, now.unixSeconds_eq]
    · exact Token.validate_encodeUnsigned (Token.plain_issuedAt _) rfl key now tolerance

/-- Half a second before the epoch a token is issued at the epoch, too far away for a tolerance of
less; with another secret its age does not matter. -/
theorem presented_verdict_before_epoch :
    let now : Instant := ⟨-1, 500000000, by decide, by decide⟩
    let key : Secret := ⟨List.replicate 32 7, by decide⟩
    let other : Secret := ⟨List.replicate 32 9, by decide⟩
    Token.validate key (Token.encode key (.issuedAt 0)) now (.ofMillis 400 (by decide)) =
        .error .clockSkewExceeded ∧
      Token.validate key (Token.encode key (.issuedAt 0)) now (.ofSeconds 1) =
        .ok (.issuedAt 0) ∧
      Token.validate key (Token.encode other (.issuedAt 0)) now (.ofSeconds 1) =
        .error .badSignature := by
  intro now key other
  have hzero : issueSeconds now 0 = 0 := by decide +kernel
  have hepoch {iat : Int64} (hi : iat.toInt = issueSeconds now 0) : iat = 0 :=
    Int64.toInt_inj.1 (hi.trans hzero)
  obtain ⟨hsigned, -⟩ := presented_verdict now [] key (.ofMillis 400 (by decide))
  obtain ⟨hsigned', -⟩ := presented_verdict now [] key (.ofSeconds 1)
  obtain ⟨iat, hi, -, hv, -⟩ := hsigned key 0
  obtain rfl := hepoch hi
  obtain ⟨iat, hi, -, -, hv', -⟩ := hsigned' key 0
  obtain rfl := hepoch hi
  obtain ⟨iat, hi, -, -, -, hbad⟩ := hsigned' other 0
  obtain rfl := hepoch hi
  refine ⟨?_, (hv' rfl).2 rfl (by decide), hbad (by decide +kernel)⟩
  rw [hv rfl, hzero, if_neg (by decide +kernel)]

end Provider

end TokenGate
