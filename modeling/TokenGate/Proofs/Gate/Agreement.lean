import TokenGate.Proofs.Gate.Gates
import TokenGate.Proofs.Http.Bearer
import TokenGate.Proofs.Node.Handshake
import TokenGate.Proofs.Provider
/-!
Both gates decide alike, and by nothing but their validator, the clock and the credential. Whoever
is turned away learns no more than that.
-/
namespace TokenGate

theorem UInt64.add_one_ne (x : UInt64) : x + 1 ≠ x := by
  intro h
  have hx : x + 1 - x = 0 := by rw [h, UInt64.sub_self]
  rw [UInt64.add_comm, UInt64.add_sub_cancel] at hx
  cases hx

/-- The counters tell for which reason a request has been refused. -/
theorem Metrics.httpReject_inj {m : Metrics} (h : m.httpReject e = m.httpReject d) : e = d := by
  have hr : (m.rejections.record e).get e = (m.rejections.record d).get e :=
    congrArg (fun m : Metrics => m.rejections.get e) h
  rw [Rejections.get_record, Rejections.get_record, if_pos rfl] at hr
  by_contra hne
  rw [if_neg fun he => hne he.symm] at hr
  exact UInt64.add_one_ne _ hr

namespace Gate

section
variable {v : Token.Validator} {now : Instant} {h h' : Http.Headers} {reason : AuthError}

/-- Nothing but the first credential among the header fields counts. -/
theorem admits_congr (hh : h.get? Http.authorization = h'.get? Http.authorization) :
    Admits v now h ↔ Admits v now h' := by
  rw [Admits, Admits, Http.bearerToken_congr hh]

theorem refuses_congr (hh : h.get? Http.authorization = h'.get? Http.authorization) :
    Refuses v now h reason ↔ Refuses v now h' reason := by
  rw [Refuses, Refuses, Http.bearerToken_congr hh]

end

namespace Gates

/-- The gate hands a request on, whatever service there is behind it. -/
def Passes (g : Gates) (r : Http.Request) : Prop :=
  ∀ inner, ({ g with inner }.step (.request r)).1 = .response (inner .authenticated r)

/-- The gate refuses a request for that reason, whatever service there is behind it: the response is
always the same, and the counters record the reason. -/
def TurnsAway (g : Gates) (r : Http.Request) (reason : AuthError) : Prop :=
  ∀ inner, { g with inner }.step (.request r) =
    (.response unauthorized, { g with inner, metrics := g.metrics.httpReject reason })

variable {g g' : Gates} {r : Http.Request} {reason : AuthError} {session : Session} {id : Nat}

theorem Passes.not_turnsAway (h : g.Passes r) : ¬ g.TurnsAway r reason := by
  intro ht
  let inner : Rpc.Caller → Http.Request → Http.Response := fun _ _ => { status := 200 }
  have hr := (h inner).symm.trans (congrArg Prod.fst (ht inner))
  cases congrArg Http.Response.status (Reply.response.inj hr)

theorem passes_of_admits (ha : Admits g.validator g.now r.headers) : g.Passes r :=
  fun inner => congrArg Reply.response (perCall_of_admits ha g.metrics inner)

theorem turnsAway_of_refuses (hr : Refuses g.validator g.now r.headers reason) :
    g.TurnsAway r reason := by
  intro inner
  simp only [step, perCall, recordRequest, refuses_iff.1 hr]

theorem passes_iff : g.Passes r ↔ Admits g.validator g.now r.headers := by
  constructor
  · intro hp
    rcases admits_or_refuses g.validator g.now r.headers with ha | ⟨reason, hr⟩
    · exact ha
    · exact (hp.not_turnsAway (turnsAway_of_refuses hr)).elim
  · exact passes_of_admits

theorem turnsAway_iff : g.TurnsAway r reason ↔ Refuses g.validator g.now r.headers reason := by
  constructor
  · intro ht
    rcases admits_or_refuses g.validator g.now r.headers with ha | ⟨e, hr⟩
    · exact ((passes_of_admits ha).not_turnsAway ht).elim
    · have hm := congrArg (fun p => p.2.metrics)
        ((ht g.inner).symm.trans (turnsAway_of_refuses hr g.inner))
      rw [Metrics.httpReject_inj hm]
      exact hr
  · exact turnsAway_of_refuses

theorem passes_or_turnsAway (g : Gates) (r : Http.Request) :
    g.Passes r ∨ ∃ reason, g.TurnsAway r reason := by
  rcases admits_or_refuses g.validator g.now r.headers with ha | ⟨reason, hr⟩
  · exact .inl (passes_of_admits ha)
  · exact .inr ⟨reason, turnsAway_of_refuses hr⟩

theorem step_handshake (hs : g.sessions[id]? = some session) (h : Http.Headers) :
    (g.step (.handshake id h)).1 =
      .handshake (handshake g.validator g.now g.metrics session h).outcome := by
  simp only [step, hs]

/-- What a request gets depends on nothing that a run changes but the clock. -/
theorem step_request_congr (hv : g'.validator = g.validator) (hi : g'.inner = g.inner)
    (hn : g'.now = g.now) (r : Http.Request) :
    (g'.step (.request r)).1 = (g.step (.request r)).1 := by
  simp only [step, perCall, hv, hi, hn]

end Gates

end Gate

/-- A request for a connection that the gate refuses gets the response of a refused call. -/
theorem Node.handle_of_refused {n : Node} (hf : Http.upgradeFault? r = none)
    (hp : Http.targetPath r.path = "/")
    (ho : (Gate.handshake n.validator now n.metrics .awaitingHandshake r.headers).outcome =
      .error e) : (n.handle .auth now r).1 = .response Gate.unauthorized := by
  have ha : ¬ Gate.Admits n.validator now r.headers := by
    intro ha
    cases ho.symm.trans (Gate.handshake_eq_ok_iff.2 ha)
  obtain ⟨metrics, hc⟩ := connect_of_not_admits hf ha
  rw [handle_get (by decide) (Http.method_of_upgradeFault? hf) hp, hc]

namespace Gate.Gates

/-- After any run, both gates decide alike on any header fields, by the credential alone; a request
that is refused gets the response that all of them get, and no service sees it. -/
theorem gates_agree (g g' : Gates) (acts acts' : List Act) (r r' : Http.Request)
    (hv : g'.validator = g.validator) (hn : (g'.after acts').now = (g.after acts).now)
    (hr : r'.headers.get? Http.authorization = r.headers.get? Http.authorization) :
    let s := g.after acts
    let s' := g'.after acts'
    (∀ m, s.Passes r ↔
      (handshake s.validator s.now m .awaitingHandshake r.headers).outcome = .ok ()) ∧
    (∀ m reason, s.TurnsAway r reason ↔
      (handshake s.validator s.now m .awaitingHandshake r.headers).outcome =
        .error (.refused reason)) ∧
    (∀ id, s.sessions[id]? = some .awaitingHandshake →
      (s.Passes r ↔ (s.step (.handshake id r.headers)).1 = .handshake (.ok ())) ∧
      ∀ reason, s.TurnsAway r reason ↔
        (s.step (.handshake id r.headers)).1 = .handshake (.error (.refused reason))) ∧
    (s.Passes r ∨ ∃ reason, s.TurnsAway r reason) ∧
    (s'.Passes r' ↔ s.Passes r) ∧
    (∀ reason, s'.TurnsAway r' reason ↔ s.TurnsAway r reason) ∧
    (g'.inner = g.inner → (s'.step (.request r)).1 = (s.step (.request r)).1) ∧
    (¬ s.Passes r → ∀ inner,
      ({ s with inner }.step (.request r)).1 = .response unauthorized) ∧
    (∀ (n : Node) now u e, Http.upgradeFault? u = none → Http.targetPath u.path = "/" →
      (handshake n.validator now n.metrics .awaitingHandshake u.headers).outcome = .error e →
      (n.handle .auth now u).1 = .response unauthorized) := by
  intro s s'
  have hvs : s'.validator = s.validator := by
    rw [(g'.after_frame acts').1, (g.after_frame acts).1, hv]
  refine ⟨?_, ?_, ?_, ?_, ?_, ?_, ?_, ?_, ?_⟩
  · intro m
    rw [passes_iff, handshake_eq_ok_iff]
  · intro m reason
    rw [turnsAway_iff, handshake_eq_refused_iff]
  · intro id hs
    constructor
    · rw [step_handshake hs, Reply.handshake.injEq, passes_iff, handshake_eq_ok_iff]
    · intro reason
      rw [step_handshake hs, Reply.handshake.injEq, turnsAway_iff, handshake_eq_refused_iff]
  · exact passes_or_turnsAway s r
  · rw [passes_iff, passes_iff, hvs, hn, admits_congr hr]
  · intro reason
    rw [turnsAway_iff, turnsAway_iff, hvs, hn, refuses_congr hr]
  · intro hi
    refine step_request_congr hvs ?_ hn r
    rw [(g'.after_frame acts').2, (g.after_frame acts).2, hi]
  · intro hp inner
    obtain ⟨reason, ht⟩ := (passes_or_turnsAway s r).resolve_left hp
    exact congrArg Prod.fst (ht inner)
  · intro n now u e hf hp ho
    exact Node.handle_of_refused hf hp ho

/-- Refusals and accepted handshakes that have been before change nothing for a signed token. -/
theorem gates_agree_signed :
    let secret : Secret := ⟨List.replicate 32 7, by decide⟩
    let g : Gates := ⟨⟨secret, .ofSeconds 5⟩, fun _ _ => { status := 200 }, .epoch, {}, []⟩
    let bare : Http.Request := ⟨"POST", "/", [], []⟩
    let acts (fields : Http.Headers) : List Act :=
      [.request bare, .enter .auth, .handshake 0 fields, .enter .auth, .handshake 1 []]
    ∃ fields, g.Passes { bare with headers := fields } ∧
      (g.after (acts fields)).Passes { bare with headers := fields } := by
  intro secret g bare acts
  obtain ⟨fields, -, hf⟩ := Provider.admits_signed secret 0 .epoch []
  have ha : g.Passes { bare with headers := fields } :=
    passes_of_admits ((hf .epoch (.ofSeconds 5)).2 (by decide))
  have hn : (g.after (acts fields)).now = (g.after []).now := rfl
  obtain ⟨-, -, -, -, same, -⟩ := gates_agree g g [] (acts fields) { bare with headers := fields }
    { bare with headers := fields } rfl hn rfl
  exact ⟨fields, ha, same.2 ha⟩

end Gate.Gates

end TokenGate
