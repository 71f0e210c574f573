import TokenGate.Gate.PerCall
import TokenGate.Gate.Session
import TokenGate.Proofs.Basic
/-!
Who passes the gates: whoever presents a token that is accepted at that time.
-/
namespace TokenGate.Gate

/-- The header fields present a token that is accepted at a point in time. -/
def Admits (v : Token.Validator) (now : Instant) (h : Http.Headers) : Prop :=
  ∃ token claims, Http.bearerToken h = .ok token ∧ v.validate token now = .ok claims

theorem admits_of_authenticate (h : authenticate v now headers = .ok claims) :
    Admits v now headers := by
  obtain ⟨token, ht, hc⟩ := bind_eq_ok.1 h
  exact ⟨token, claims, ht, hc⟩

theorem Admits.authenticate (h : Admits v now headers) :
    ∃ claims, authenticate v now headers = .ok claims := by
  obtain ⟨token, claims, ht, hc⟩ := h
  exact ⟨claims, bind_eq_ok.2 ⟨token, ht, hc⟩⟩

/-- The header fields are refused at a point in time: there is no token in them, or it is not
accepted. -/
def Refuses (v : Token.Validator) (now : Instant) (h : Http.Headers) (reason : AuthError) : Prop :=
  Http.bearerToken h = .error reason ∨
    ∃ token, Http.bearerToken h = .ok token ∧ v.validate token now = .error reason

theorem refuses_iff :
    Refuses v now headers reason ↔ authenticate v now headers = .error reason := by
  rw [Refuses, authenticate]
  cases Http.bearerToken headers with
  | error e => simp [bind, Except.bind]
  | ok token => simp [bind, Except.bind]

theorem admits_or_refuses (v : Token.Validator) (now : Instant) (h : Http.Headers) :
    Admits v now h ∨ ∃ reason, Refuses v now h reason := by
  cases ha : authenticate v now h with
  | ok claims => exact .inl (admits_of_authenticate ha)
  | error reason => exact .inr ⟨reason, refuses_iff.2 ha⟩

theorem Refuses.not_admits (h : Refuses v now headers reason) : ¬ Admits v now headers := by
  intro ha
  obtain ⟨claims, hc⟩ := ha.authenticate
  rw [refuses_iff.1 h] at hc
  cases hc

theorem Refuses.unique (h : Refuses v now headers reason) (h' : Refuses v now headers reason') :
    reason = reason' :=
  Except.error.inj ((refuses_iff.1 h).symm.trans (refuses_iff.1 h'))

theorem perCall_of_admits (h : Admits v now request.headers) (m : Metrics)
    (inner : Rpc.Caller → Http.Request → Http.Response) :
    (perCall v now m request inner).1 = inner .authenticated request := by
  obtain ⟨claims, hc⟩ := h.authenticate
  simp only [perCall, hc]

theorem perCall_of_not_admits (h : ¬ Admits v now request.headers) (m : Metrics)
    (inner : Rpc.Caller → Http.Request → Http.Response) :
    (perCall v now m request inner).1 = unauthorized := by
  simp only [perCall]
  split
  · next ha => exact (h (admits_of_authenticate ha)).elim
  · rfl

/-- A handshake is accepted only if the header fields admit it, and decides the session. -/
theorem handshake_ok (h : (handshake v now m .awaitingHandshake headers).outcome = .ok ()) :
    Admits v now headers ∧
      (handshake v now m .awaitingHandshake headers).session = .authenticated := by
  simp only [handshake] at h ⊢
  split at h
  · next ha => exact ⟨admits_of_authenticate ha, rfl⟩
  · cases h

section
variable {v : Token.Validator} {now : Instant} {m : Metrics} {h : Http.Headers} {s other : Session}
  {reason : AuthError}

theorem handshake_of_admits (ha : Admits v now h) (m : Metrics) :
    handshake v now m .awaitingHandshake h = ⟨.ok (), .authenticated, m.handshakeAccept⟩ := by
  obtain ⟨claims, hc⟩ := ha.authenticate
  simp only [handshake, hc]

theorem handshake_of_refuses (hr : Refuses v now h reason) (m : Metrics) :
    handshake v now m .awaitingHandshake h =
      ⟨.error (.refused reason), .rejected reason, m.handshakeReject reason⟩ := by
  simp only [handshake, refuses_iff.1 hr]

theorem handshake_eq_ok_iff :
    (handshake v now m .awaitingHandshake h).outcome = .ok () ↔ Admits v now h := by
  constructor
  · intro ho
    exact (handshake_ok ho).1
  · intro ha
    rw [handshake_of_admits ha]

theorem handshake_eq_refused_iff :
    (handshake v now m .awaitingHandshake h).outcome = .error (.refused reason) ↔
      Refuses v now h reason := by
  constructor
  · intro ho
    rcases admits_or_refuses v now h with ha | ⟨e, hr⟩
    · rw [handshake_of_admits ha] at ho
      cases ho
    · rw [handshake_of_refuses hr] at ho
      cases ho
      exact hr
  · intro hr
    rw [handshake_of_refuses hr]

/-- A session that does not wait has had its handshake, or needs none. -/
theorem handshake_eq_of_ne (hs : s ≠ .awaitingHandshake) (m : Metrics) :
    handshake v now m s h = ⟨.error (.alreadyPerformed s), s, m⟩ := by
  cases s with
  | awaitingHandshake => exact (hs rfl).elim
  | authenticated => rfl
  | rejected reason => rfl
  | anonymous => rfl
  | closed => rfl

theorem ne_of_alreadyPerformed
    (ho : (handshake v now m s h).outcome = .error (.alreadyPerformed other)) :
    s ≠ .awaitingHandshake := by
  rintro rfl
  rcases admits_or_refuses v now h with ha | ⟨reason, hr⟩
  · cases ho.symm.trans (handshake_eq_ok_iff.2 ha)
  · cases ho.symm.trans (handshake_eq_refused_iff.2 hr)

end

end TokenGate.Gate
