import TokenGate.Proofs.Gate.Gates
import TokenGate.Proofs.Provider
/-!
What a session has come to is read off its own history: which handshakes it has been through, when,
and whether it has been closed.
-/
namespace TokenGate.Gate

/-- What is done to one session: a handshake at some time, or closing it. -/
inductive Treatment where
  | handshake (now : Instant) (h : Http.Headers)
  | close
  deriving DecidableEq

/-- A session after what is done to it. -/
def Session.treat (v : Token.Validator) (s : Session) : Treatment → Session
  | .handshake now h => (Gate.handshake v now {} s h).session
  | .close => .closed

/-- What is done first is a handshake with that verdict, and a close does not follow. -/
def DecidedBy (history : List Treatment) (verdict : Instant → Http.Headers → Prop) : Prop :=
  ∃ now h later, history = .handshake now h :: later ∧ verdict now h ∧ .close ∉ later

section
variable {v : Token.Validator} {now : Instant} {h : Http.Headers} {s d : Session}
  {reason : AuthError}

/-- What a handshake does to a session does not depend on the counters. -/
theorem handshake_session (m : Metrics) :
    (handshake v now m s h).session = s.treat v (.handshake now h) := by
  by_cases hs : s = .awaitingHandshake
  · subst hs
    rcases admits_or_refuses v now h with ha | ⟨reason, hr⟩
    · rw [Session.treat, handshake_of_admits ha, handshake_of_admits ha]
    · rw [Session.treat, handshake_of_refuses hr, handshake_of_refuses hr]
  · rw [Session.treat, handshake_eq_of_ne hs, handshake_eq_of_ne hs]

theorem Session.treat_eq_authenticated :
    Session.awaitingHandshake.treat v (.handshake now h) = .authenticated ↔ Admits v now h := by
  rcases admits_or_refuses v now h with ha | ⟨reason, hr⟩
  · rw [treat, handshake_of_admits ha]
    exact iff_of_true rfl ha
  · rw [treat, handshake_of_refuses hr]
    exact iff_of_false (by simp only [reduceCtorEq, not_false_eq_true]) hr.not_admits

theorem Session.treat_eq_rejected :
    Session.awaitingHandshake.treat v (.handshake now h) = .rejected reason ↔
      Refuses v now h reason := by
  rcases admits_or_refuses v now h with ha | ⟨e, hr⟩
  · rw [treat, handshake_of_admits ha]
    exact iff_of_false (by simp only [reduceCtorEq, not_false_eq_true]) fun hr => hr.not_admits ha
  · rw [treat, handshake_of_refuses hr, Session.rejected.injEq]
    constructor
    · rintro rfl
      exact hr
    · intro hr'
      exact hr.unique hr'

/-- A session that is not waiting any more can only be closed. -/
theorem Session.foldl_treat_of_ne (hs : s ≠ .awaitingHandshake) (ts : List Treatment) :
    ts.foldl (treat v) s = if .close ∈ ts then .closed else s := by
  induction ts generalizing s with
  | nil => rfl
  | cons t ts ih =>
    cases t with
    | handshake now h =>
      have ht : s.treat v (.handshake now h) = s := by rw [treat, handshake_eq_of_ne hs]
      simp only [List.foldl_cons, ht, ih hs, List.mem_cons, reduceCtorEq, false_or]
    | close =>
      rw [List.foldl_cons, treat, ih (by decide), ite_self, if_pos List.mem_cons_self]

/-- Whatever is done to a session, it does not wait after it. -/
theorem Session.treat_ne_awaiting (t : Treatment) : s.treat v t ≠ .awaitingHandshake := by
  intro ht
  cases t with
  | handshake now h =>
    by_cases hs : s = .awaitingHandshake
    · subst hs
      rcases admits_or_refuses v now h with ha | ⟨reason, hr⟩
      · cases ht.symm.trans (treat_eq_authenticated.2 ha)
      · cases ht.symm.trans (treat_eq_rejected.2 hr)
    · rw [treat, handshake_eq_of_ne hs] at ht
      exact hs ht
  | close => cases ht

/-- A session that waits comes to what its first handshake decides, unless it is closed. -/
theorem Session.foldl_treat_eq_iff (hd : d ≠ .awaitingHandshake) (hc : d ≠ .closed)
    (ts : List Treatment) :
    ts.foldl (treat v) .awaitingHandshake = d ↔
      DecidedBy ts fun now h => awaitingHandshake.treat v (.handshake now h) = d := by
  cases ts with
  | nil =>
    constructor
    · intro h
      exact (hd h.symm).elim
    · rintro ⟨now, h, later, he, -⟩
      cases he
  | cons t ts =>
    rw [List.foldl_cons, foldl_treat_of_ne (treat_ne_awaiting t)]
    constructor
    · intro h
      split at h
      · exact (hc h.symm).elim
      · next hl =>
        cases t with
        | handshake now headers => exact ⟨now, headers, ts, rfl, h, hl⟩
        | close => exact (hc h.symm).elim
    · rintro ⟨now, h, later, he, hv, hl⟩
      obtain ⟨rfl, rfl⟩ := List.cons.inj he
      rw [if_neg hl, hv]

end

namespace Gates

/-- What an act does to a session that there is. -/
def treatment? (g : Gates) (id : Nat) : Act → Option Treatment
  | .handshake i h => if i = id ∧ id < g.sessions.length then some (.handshake g.now h) else none
  | .close i => if i = id ∧ id < g.sessions.length then some .close else none
  | _ => none

/-- All that a run does to a session. -/
def history (g : Gates) (id : Nat) : List Act → List Treatment
  | [] => []
  | act :: acts => (g.treatment? id act).toList ++ (g.step act).2.history id acts

/-- Among the acts is one by which the session began on the listener. -/
def Enters (g : Gates) (acts : List Act) (l : Listener) (id : Nat) : Prop :=
  ∃ before rest, acts = before ++ .enter l :: rest ∧
    ((g.after before).step (.enter l)).1 = .entered id

variable {g : Gates} {acts : List Act} {act : Act} {l : Listener} {id : Nat} {session : Session}

theorem history_append (g : Gates) (id : Nat) (xs ys : List Act) :
    g.history id (xs ++ ys) = g.history id xs ++ (g.after xs).history id ys := by
  induction xs generalizing g with
  | nil => rfl
  | cons act xs ih => rw [List.cons_append, history, ih, history, after_cons, List.append_assoc]

/-- A step treats a session as its own part of it says. -/
theorem session_step (hs : g.sessions[id]? = some session) (act : Act) :
    (g.step act).2.sessions[id]? =
      some ((g.treatment? id act).toList.foldl (Session.treat g.validator) session) := by
  obtain ⟨hl, -⟩ := List.getElem?_eq_some_iff.1 hs
  cases act with
  | enter l => exact (List.getElem?_append_left hl).trans hs
  | close i =>
    by_cases hi : i = id
    · subst hi
      simp only [step, List.getElem?_modify, hs, treatment?, hl, and_self, if_true]
      rfl
    · simp only [step, List.getElem?_modify, hs, treatment?, hi, false_and, if_false]
      rfl
  | handshake i h =>
    by_cases hi : i = id
    · subst hi
      simp only [step, hs, List.getElem?_set_self hl, handshake_session, treatment?, hl, and_self,
        if_true]
      rfl
    · simp only [treatment?, hi, false_and, if_false, step]
      split
      · exact hs
      · exact (List.getElem?_set_ne hi).trans hs
  | clock now => exact hs
  | request r => exact hs

/-- After a run, a session has come to what has been done to it. -/
theorem session_after (hs : g.sessions[id]? = some session) (acts : List Act) :
    (g.after acts).sessions[id]? =
      some ((g.history id acts).foldl (Session.treat g.validator) session) := by
  induction acts generalizing g session with
  | nil => exact hs
  | cons act acts ih =>
    rw [after_cons, ih (session_step hs act), (g.step_frame act).1, history, List.foldl_append]

/-- The number of sessions never falls, and rises by one with each that begins. -/
theorem length_step (g : Gates) (act : Act) :
    (g.step act).2.sessions.length = g.sessions.length ∨
      (∃ l, act = .enter l) ∧ (g.step act).2.sessions.length = g.sessions.length + 1 := by
  cases act with
  | enter l => exact .inr ⟨⟨l, rfl⟩, List.length_append⟩
  | close id => exact .inl (List.length_modify _ _ _)
  | handshake id h =>
    simp only [step]
    split
    · exact .inl rfl
    · exact .inl List.length_set
  | clock now => exact .inl rfl
  | request r => exact .inl rfl

theorem length_le_after (g : Gates) (acts : List Act) :
    g.sessions.length ≤ (g.after acts).sessions.length := by
  induction acts generalizing g with
  | nil => exact Nat.le_refl _
  | cons act acts ih =>
    have hs : g.sessions.length ≤ (g.step act).2.sessions.length := by
      rcases g.length_step act with h | ⟨-, h⟩ <;> omega
    exact Nat.le_trans hs (ih _)

theorem treatment?_of_absent (ha : g.sessions.length ≤ id) (act : Act) :
    g.treatment? id act = none := by
  have hn : ¬ id < g.sessions.length := Nat.not_lt.2 ha
  cases act <;> simp only [treatment?, hn, and_false, if_false]

/-- Nothing has been done to a session that has not begun. -/
theorem history_of_absent (ha : (g.after acts).sessions.length ≤ id) :
    g.history id acts = [] := by
  induction acts generalizing g with
  | nil => rfl
  | cons act acts ih =>
    have hg : g.sessions.length ≤ id := Nat.le_trans (g.length_le_after (act :: acts)) ha
    rw [history, treatment?_of_absent hg, ih ha]
    rfl

theorem Enters.cons (h : (g.step act).2.Enters acts l id) : g.Enters (act :: acts) l id := by
  obtain ⟨before, rest, rfl, hr⟩ := h
  exact ⟨act :: before, rest, rfl, hr⟩

/-- Whatever session there is after a run has begun before it or in it. -/
theorem exists_enters (ha : g.sessions.length ≤ id)
    (hp : id < (g.after acts).sessions.length) : ∃ l, g.Enters acts l id := by
  induction acts generalizing g with
  | nil => exact (Nat.not_lt.2 ha hp).elim
  | cons act acts ih =>
    -- It begins with the act after which it is there for the first time.
    by_cases hn : (g.step act).2.sessions.length ≤ id
    · obtain ⟨l, hl⟩ := ih hn hp
      exact ⟨l, hl.cons⟩
    · rcases g.length_step act with h | ⟨⟨l, rfl⟩, h⟩
      · omega
      · refine ⟨l, [], acts, rfl, ?_⟩
        have hid : g.sessions.length = id := by omega
        rw [after_nil, step, hid]

/-- A session is what its history has made of how it began. -/
theorem Enters.session_eq (h : g.Enters acts l id) :
    (g.after acts).sessions[id]? =
      some ((g.history id acts).foldl (Session.treat g.validator) l.opening) := by
  obtain ⟨before, rest, rfl, hr⟩ := h
  obtain rfl : (g.after before).sessions.length = id := Reply.entered.inj hr
  have hb : g.history (g.after before).sessions.length before = [] :=
    history_of_absent (Nat.le_refl _)
  have hs : ((g.after before).step (.enter l)).2.sessions[(g.after before).sessions.length]? =
      some l.opening := List.getElem?_concat_length
  rw [after_append, after_cons, session_after hs, history_append, hb, history,
    ((g.after before).step_frame _).1, (g.after_frame before).1]
  rfl

/-- A session has come to what a handshake decides if it began on the authenticated listener, that
handshake was the first, and it was not closed. -/
theorem session_eq_iff (hg : g.sessions = [])
    (hs : (g.after acts).sessions[id]? = some session) {d : Session}
    (hd : d ≠ .awaitingHandshake) (hc : d ≠ .closed) (hp : d ≠ .anonymous) :
    session = d ↔ g.Enters acts .auth id ∧ DecidedBy (g.history id acts) fun now h =>
      Session.awaitingHandshake.treat g.validator (.handshake now h) = d := by
  have hn : g.sessions.length ≤ id := by rw [hg]; exact Nat.zero_le id
  obtain ⟨hl, -⟩ := List.getElem?_eq_some_iff.1 hs
  obtain ⟨l, he⟩ := exists_enters hn hl
  constructor
  · rintro rfl
    have hf := Option.some.inj (hs.symm.trans he.session_eq)
    by_cases hla : l = .auth
    · subst hla
      exact ⟨he, (Session.foldl_treat_eq_iff hd hc _).1 hf.symm⟩
    · rw [l.opening_of_ne_auth hla, Session.foldl_treat_of_ne (by decide)] at hf
      split at hf
      · exact (hc hf).elim
      · exact (hp hf).elim
  · rintro ⟨ha, hdec⟩
    have hf := Option.some.inj (hs.symm.trans ha.session_eq)
    exact hf.trans ((Session.foldl_treat_eq_iff hd hc _).2 hdec)

/-- A session that is not waiting stays what it is until it is closed. -/
theorem session_settled (hs : g.sessions[id]? = some session) (hw : session ≠ .awaitingHandshake)
    (acts : List Act) :
    (g.after acts).sessions[id]? = some session ∨ (g.after acts).sessions[id]? = some .closed := by
  rw [session_after hs, Session.foldl_treat_of_ne hw]
  split
  · exact .inr rfl
  · exact .inl rfl

/-- A handshake on a session that is not waiting is an error and changes nothing. -/
theorem step_handshake_of_ne (hs : g.sessions[id]? = some session)
    (hw : session ≠ .awaitingHandshake) (h : Http.Headers) :
    g.step (.handshake id h) = (.handshake (.error (.alreadyPerformed session)), g) := by
  obtain ⟨hl, rfl⟩ := List.getElem?_eq_some_iff.1 hs
  simp only [step, hs, handshake_eq_of_ne hw, List.set_getElem_self]

/-- A handshake that is accepted leaves its session authenticated. -/
theorem session_of_accepted {h : Http.Headers}
    (ha : (g.step (.handshake id h)).1 = .handshake (.ok ())) :
    (g.step (.handshake id h)).2.sessions[id]? = some .authenticated := by
  simp only [step] at ha ⊢
  split at ha
  · cases ha
  · next session hs =>
    have ho := Reply.handshake.inj ha
    obtain ⟨hl, -⟩ := List.getElem?_eq_some_iff.1 hs
    by_cases hw : session = .awaitingHandshake
    · subst hw
      simp only [List.getElem?_set_self hl, (handshake_ok ho).2]
    · rw [handshake_eq_of_ne hw] at ho
      cases ho

/-- Once a handshake has been accepted, no other on the same session is. -/
theorem not_accepted_again {h : Http.Headers}
    (ha : (g.step (.handshake id h)).1 = .handshake (.ok ())) (later : List Act)
    (k : Http.Headers) :
    ((g.after (.handshake id h :: later)).step (.handshake id k)).1 ≠ .handshake (.ok ()) := by
  intro hk
  have settled := session_settled (session_of_accepted ha) (by decide) later
  rcases settled with hs | hs
  · rw [after_cons, step_handshake_of_ne hs (by decide)] at hk
    cases hk
  · rw [after_cons, step_handshake_of_ne hs (by decide)] at hk
    cases hk

theorem treatment?_of_other (hh : ∀ h, act ≠ .handshake id h) (hc : act ≠ .close id) :
    g.treatment? id act = none := by
  cases act with
  | enter l => rfl
  | close i =>
    have hi : i ≠ id := fun he => hc (congrArg Act.close he)
    simp only [treatment?, hi, false_and, if_false]
  | handshake i h =>
    have hi : i ≠ id := fun he => hh h (congrArg (Act.handshake · h) he)
    simp only [treatment?, hi, false_and, if_false]
  | clock now => rfl
  | request r => rfl

theorem caller_eq_authenticated : session.caller = .authenticated ↔ session = .authenticated := by
  cases session <;> simp only [Session.caller, reduceCtorEq]

/-- A session is authenticated by its own first handshake or never, and nothing that is done to
others bears on it. -/
theorem session_decided (hg : g.sessions = []) (acts : List Act)
    (hs : (g.after acts).sessions[id]? = some session) :
    (session = .authenticated ↔
      g.Enters acts .auth id ∧ DecidedBy (g.history id acts) (Admits g.validator)) ∧
    (∀ reason, session = .rejected reason ↔
      g.Enters acts .auth id ∧
        DecidedBy (g.history id acts) (Refuses g.validator · · reason)) ∧
    (session.caller = .authenticated ↔ session = .authenticated) ∧
    (session ≠ .awaitingHandshake → ∀ h, (g.after acts).step (.handshake id h) =
      (.handshake (.error (.alreadyPerformed session)), g.after acts)) ∧
    (∀ act, (∀ h, act ≠ .handshake id h) → act ≠ .close id →
      ((g.after acts).step act).2.sessions[id]? = some session) ∧
    (session ≠ .awaitingHandshake → ∀ more,
      (g.after (acts ++ more)).sessions[id]? = some session ∨
        (g.after (acts ++ more)).sessions[id]? = some .closed) ∧
    (session ≠ .awaitingHandshake → session ≠ .authenticated → ∀ more,
      (g.after (acts ++ more)).sessions[id]? ≠ some .authenticated) ∧
    (∀ before h later k, acts = before ++ .handshake id h :: later →
      ((g.after before).step (.handshake id h)).1 = .handshake (.ok ()) →
      ((g.after acts).step (.handshake id k)).1 ≠ .handshake (.ok ())) := by
  have settled (hw : session ≠ .awaitingHandshake) (more : List Act) :
      (g.after (acts ++ more)).sessions[id]? = some session ∨
        (g.after (acts ++ more)).sessions[id]? = some .closed := by
    rw [after_append]
    exact session_settled hs hw more
  refine ⟨?_, ?_, caller_eq_authenticated, step_handshake_of_ne hs, ?_, settled, ?_, ?_⟩
  · rw [session_eq_iff hg hs (by decide) (by decide) (by decide)]
    simp only [Session.treat_eq_authenticated]
  · intro reason
    rw [session_eq_iff hg hs (by simp) (by simp) (by simp)]
    simp only [Session.treat_eq_rejected]
  · intro act hh hc
    rw [session_step hs, treatment?_of_other hh hc]
    rfl
  · intro hw ha more hm
    rcases settled hw more with h | h
    · exact ha (Option.some.inj (h.symm.trans hm))
    · cases h.symm.trans hm
  · rintro before h later k rfl ha
    rw [after_append]
    exact not_accepted_again ha later k

/-- A session that a signed token has opened outlives the token. -/
theorem session_decided_signed :
    let secret : Secret := ⟨List.replicate 32 7, by decide⟩
    let g : Gates := ⟨⟨secret, .ofSeconds 5⟩, fun _ _ => { status := 200 }, .epoch, {}, []⟩
    ∃ fields, (g.after [.enter .auth, .handshake 0 fields]).sessions[0]? = some .authenticated ∧
      ∀ more, (g.after ([.enter .auth, .handshake 0 fields] ++ more)).sessions[0]? =
          some .authenticated ∨
        (g.after ([.enter .auth, .handshake 0 fields] ++ more)).sessions[0]? = some .closed := by
  intro secret g
  obtain ⟨fields, -, hf⟩ := Provider.admits_signed secret 0 .epoch []
  have ha : Admits g.validator .epoch fields := (hf .epoch (.ofSeconds 5)).2 (by decide)
  have he : g.Enters [.enter .auth, .handshake 0 fields] .auth 0 := ⟨[], _, rfl, rfl⟩
  have hs : (g.after [.enter .auth, .handshake 0 fields]).sessions[0]? = some .authenticated :=
    he.session_eq.trans (congrArg some (Session.treat_eq_authenticated.2 ha))
  obtain ⟨-, -, -, -, -, settled, -⟩ := session_decided rfl _ hs
  exact ⟨fields, hs, settled (by decide)⟩

end Gates

end TokenGate.Gate
