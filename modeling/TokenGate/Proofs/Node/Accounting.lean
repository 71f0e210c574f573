import TokenGate.Proofs.Node.Attempts
/-!
The counters after every run of a node: each attempt to authenticate is counted once and under its
reason, and the connections are those that have been opened and not ended.
-/
namespace TokenGate

open Http (Event)

/-- Inputs, and events on connections on which nothing can be sent any more. -/
inductive Turn where
  | input (i : Input)
  | cut (id : Nat) (e : Event)

/-- A connection begins or ends. -/
inductive Mark where
  | started
  | ended
  deriving DecidableEq

namespace Node

/-- Whether what comes in on a connection ends it. A reply does if it cannot be sent. -/
def ends (n : Node) (id : Nat) (e : Event) (sent : Bool) : Bool :=
  match n.connection? id with
  | none => false
  | some c =>
    match c.react (e.limit n.maxMessageSize) with
    | .reply _ => !sent
    | .ignore => false
    | .leave => true

/-- A node after what comes in on a connection on which nothing can be sent any more. -/
def cut (n : Node) (id : Nat) (e : Event) : Node := if n.ends id e false then n.disconnect id else n

variable {n : Node} {id : Nat} {e : Event} {sent : Bool} {marks : List Mark}

theorem echo_node (n : Node) (id : Nat) (e : Event) :
    (n.echo id e).2 = if n.ends id e true then n.disconnect id else n := by
  cases hc : n.connection? id with
  | none => simp [echo, receive, ends, hc]
  | some c => cases hr : c.react (e.limit n.maxMessageSize) <;> simp [echo, receive, ends, hc, hr]

/-- Nothing but a connection that there is can end. -/
theorem mem_of_ends (h : n.ends id e sent) : id ∈ n.connections.map Prod.fst := by
  by_contra hn
  have hl : n.connections.lookup id = none := lookup_eq_none_iff.2 hn
  simp only [ends, connection?, hl, Option.map_none, Bool.false_eq_true] at h

/-- The connections are those that have begun and not ended, and the counter says how many there
are. -/
structure Tracked (n : Node) (marks : List Mark) : Prop where
  nodup : (n.connections.map Prod.fst).Nodup
  below : ∀ id ∈ n.connections.map Prod.fst, id < n.opened
  balance : marks.count .ended + n.connections.length = marks.count .started
  counter : n.metrics.connections = .ofNat n.connections.length

theorem Tracked.nil (hc : n.connections = []) (hm : n.metrics.connections = 0) :
    n.Tracked [] := by
  constructor
  · rw [hc]
    exact List.nodup_nil
  · rw [hc]
    exact fun id hid => (List.not_mem_nil hid).elim
  · rw [hc]
    rfl
  · rw [hc]
    exact hm

theorem Tracked.started (h : n.Tracked marks) (l : Listener) (session : Gate.Session) {m : Metrics}
    (hm : m.connections = n.metrics.connections) :
    Tracked { n with
      connections := n.connections ++ [(n.opened, l, session)]
      opened := n.opened + 1
      metrics := m.connect } (marks ++ [.started]) := by
  have hids : (n.connections ++ [(n.opened, l, session)]).map Prod.fst =
      n.connections.map Prod.fst ++ [n.opened] := List.map_append
  constructor
  · rw [hids]
    refine List.nodup_append.2 ⟨h.nodup, List.pairwise_singleton _ _, ?_⟩
    intro id hid other ho
    rw [List.mem_singleton.1 ho]
    exact Nat.ne_of_lt (h.below id hid)
  · intro id hid
    rw [hids] at hid
    rcases List.mem_append.1 hid with hid | hid
    · exact Nat.lt_succ_of_lt (h.below id hid)
    · rw [List.mem_singleton.1 hid]
      exact Nat.lt_succ_self _
  · have hb := h.balance
    rw [List.count_append, List.count_append, List.length_append]
    exact congrArg (· + 1) hb
  · simp only [Metrics.connect, hm, h.counter, List.length_append, List.length_singleton,
      UInt64.ofNat_add]
    rfl

theorem Tracked.ended (h : n.Tracked marks) (hid : id ∈ n.connections.map Prod.fst) :
    (n.disconnect id).Tracked (marks ++ [.ended]) := by
  have hl := length_filter_ne h.nodup hid
  constructor
  · exact h.nodup.sublist (List.filter_sublist.map Prod.fst)
  · intro other ho
    exact h.below other ((List.filter_sublist.map Prod.fst).subset ho)
  · have hb := h.balance
    rw [← hl] at hb
    rw [List.count_append, List.count_append, disconnect]
    exact (Nat.add_right_comm _ _ _).trans hb
  · simp only [disconnect, Metrics.disconnect, h.counter, ← hl, UInt64.ofNat_add]
    exact UInt64.add_sub_cancel _ _

theorem Tracked.of_metrics (h : n.Tracked marks) {m : Metrics}
    (hm : m.connections = n.metrics.connections) : Tracked { n with metrics := m } marks :=
  ⟨h.nodup, h.below, h.balance, hm.trans h.counter⟩

end Node

namespace System

def take (s : System) : Turn → System
  | .input i => (s.step i).2
  | .cut id e => { s with node := s.node.cut id e }

/-- The system after a number of turns. -/
def course (s : System) (turns : List Turn) : System := turns.foldl take s

/-- The attempt to authenticate that a turn is. A listener that is not open is not reached. -/
def attempt? (s : System) : Turn → Option Attempt
  | .input (.request l r) => if (s.node.address l).isOk then l.attempt? s.now r else none
  | _ => none

/-- What a turn does to the connections that there are. -/
def mark? (s : System) : Turn → Option Mark
  | .input (.clock _) => none
  | .input (.request l r) =>
    match (s.node.deliver l s.now r).1 with
    | .ok (.connected _) => some .started
    | _ => none
  | .input (.frame id e) => if s.node.ends id e true then some .ended else none
  | .cut id e => if s.node.ends id e false then some .ended else none

/-- What is noted of the turns of a run, in order. -/
def notes (note : System → Turn → Option α) (s : System) : List Turn → List α
  | [] => []
  | turn :: turns => (note s turn).toList ++ (s.take turn).notes note turns

def attempts (s : System) (turns : List Turn) : List Attempt := s.notes attempt? turns

def marks (s : System) (turns : List Turn) : List Mark := s.notes mark? turns

/-- What holds of the notes and the system, and is kept by every turn, holds after every run. -/
theorem notes_induction {motive : List α → System → Prop} {note : System → Turn → Option α}
    (step : ∀ xs s turn, motive xs s → motive (xs ++ (note s turn).toList) (s.take turn))
    (start : motive xs s) (turns : List Turn) :
    motive (xs ++ s.notes note turns) (s.course turns) := by
  induction turns generalizing xs s with
  | nil => rwa [notes, List.append_nil]
  | cons turn turns ih =>
    rw [notes, ← List.append_assoc]
    exact ih (step xs s turn start)

/-- A turn counts as the attempt that it is, and begins or ends a connection as its mark says. -/
inductive Taken (s : System) (turn : Turn) : System → Prop where
  | quiet (now : Instant) (hm : s.mark? turn = none) :
      Taken s turn ⟨{ s.node with metrics := s.node.book (s.attempt? turn) }, now⟩
  | started (l : Listener) (session : Gate.Session) (hm : s.mark? turn = some .started) :
      Taken s turn { s with node := { s.node with
        connections := s.node.connections ++ [(s.node.opened, l, session)]
        opened := s.node.opened + 1
        metrics := (s.node.book (s.attempt? turn)).connect } }
  | ended (id : Nat) (hm : s.mark? turn = some .ended) (ha : s.attempt? turn = none)
      (hid : id ∈ s.node.connections.map Prod.fst) :
      Taken s turn { s with node := s.node.disconnect id }

theorem taken_request (s : System) (l : Listener) (r : Http.Request) :
    Taken s (.input (.request l r)) (s.take (.input (.request l r))) := by
  have hd := s.node.deliver_eq l s.now r
  by_cases ho : (s.node.address l).isOk
  · rw [if_pos ho] at hd
    have ha : s.attempt? (.input (.request l r)) = l.attempt? s.now r := if_pos ho
    have hc := s.node.counted l s.now r
    generalize s.node.handle l s.now r = result at hd hc
    cases hc with
    | answered response hs =>
      have hm : s.mark? (.input (.request l r)) = none := by simp only [mark?, hd]
      simp only [take, step, hd, ← ha]
      exact .quiet s.now hm
    | connected session =>
      have hm : s.mark? (.input (.request l r)) = some .started := by simp only [mark?, hd]
      simp only [take, step, hd, ← ha]
      exact .started l session hm
  · rw [if_neg ho] at hd
    have ha : s.attempt? (.input (.request l r)) = none := if_neg ho
    have hm : s.mark? (.input (.request l r)) = none := by simp only [mark?, hd]
    have hq := Taken.quiet s.now hm
    rw [ha] at hq
    simp only [take, step, hd]
    exact hq

theorem taken (s : System) (turn : Turn) : Taken s turn (s.take turn) := by
  cases turn with
  | input i =>
    cases i with
    | clock now => exact .quiet now rfl
    | request l r => exact s.taken_request l r
    | frame id e =>
      have he := s.node.echo_node id e
      by_cases hends : s.node.ends id e true
      · rw [if_pos hends] at he
        simp only [take, step, he]
        exact .ended id (if_pos hends) rfl (Node.mem_of_ends hends)
      · rw [if_neg hends] at he
        simp only [take, step, he]
        exact .quiet s.now (if_neg hends)
  | cut id e =>
    by_cases hends : s.node.ends id e false
    · simp only [take, Node.cut, if_pos hends]
      exact .ended id (if_pos hends) rfl (Node.mem_of_ends hends)
    · simp only [take, Node.cut, if_neg hends]
      exact .quiet s.now (if_neg hends)

variable {s : System} {turn : Turn} {attempts : List Attempt} {marks : List Mark}

theorem take_validator (s : System) (turn : Turn) :
    (s.take turn).node.validator = s.node.validator := by
  have hm := s.taken turn
  generalize s.take turn = s' at hm ⊢
  cases hm with
  | quiet => rfl
  | started => rfl
  | ended => rfl

theorem booked_book {n : Node} (h : Attempt.Booked n.validator attempts n.metrics)
    (a : Option Attempt) : Attempt.Booked n.validator (attempts ++ a.toList) (n.book a) := by
  cases a with
  | none => rwa [Option.toList_none, List.append_nil]
  | some a => exact h.book a

theorem booked_take (h : Attempt.Booked s.node.validator attempts s.node.metrics) (turn : Turn) :
    Attempt.Booked s.node.validator (attempts ++ (s.attempt? turn).toList)
      (s.take turn).node.metrics := by
  -- What begins or ends a connection touches only their counter.
  have hb := booked_book h (s.attempt? turn)
  have hm := s.taken turn
  generalize s.take turn = s' at hm ⊢
  cases hm with
  | quiet => exact hb
  | started => exact hb.of_connections _
  | ended id _ ha hid =>
    rw [ha] at hb ⊢
    exact hb.of_connections _

theorem book_connections (n : Node) (a : Option Attempt) :
    (n.book a).connections = n.metrics.connections := by
  cases a with
  | none => rfl
  | some a =>
    simp only [Node.book, Attempt.book]
    cases a.kind <;> cases a.refusal? n.validator <;> rfl

theorem tracked_take (h : s.node.Tracked marks) (turn : Turn) :
    (s.take turn).node.Tracked (marks ++ (s.mark? turn).toList) := by
  have hc := book_connections s.node (s.attempt? turn)
  have hm := s.taken turn
  generalize s.take turn = s' at hm ⊢
  cases hm with
  | quiet now hm =>
    rw [hm, Option.toList_none, List.append_nil]
    exact h.of_metrics hc
  | started l session hm =>
    rw [hm]
    exact h.started l session hc
  | ended id hm _ hid =>
    rw [hm]
    exact h.ended hid

/-- What is no attempt to authenticate changes no counter but that of connections. -/
theorem take_metrics (ha : s.attempt? turn = none) :
    ∃ connections, (s.take turn).node.metrics = { s.node.metrics with connections } := by
  have hm := s.taken turn
  generalize s.take turn = s' at hm ⊢
  cases hm with
  | quiet => exact ⟨_, congrArg s.node.book ha⟩
  | started => exact ⟨_, congrArg (Metrics.connect ∘ s.node.book) ha⟩
  | ended => exact ⟨_, rfl⟩

/-- A request that does not fit the listener changes no counter. -/
theorem take_metrics_of_misfit {l : Listener} {r : Http.Request} {response : Http.Response}
    (hr : (s.step (.request l r)).1 = .outcome (.ok (.response response)))
    (hs : Node.Misfit response) :
    (s.take (.input (.request l r))).node.metrics = s.node.metrics := by
  have hd := s.node.deliver_eq l s.now r
  split at hd
  · have hc := s.node.counted l s.now r
    generalize s.node.handle l s.now r = result at hd hc
    simp only [step, hd, Answer.outcome.injEq, Except.ok.injEq] at hr
    cases hc with
    | answered response hs' =>
      obtain rfl := Node.Outcome.response.inj hr
      simp only [take, step, hd, hs' hs, Node.book]
    | connected session => cases hr
  · simp only [step, hd, Answer.outcome.injEq, reduceCtorEq] at hr

theorem booked_course (h : Attempt.Booked s.node.validator [] s.node.metrics)
    (turns : List Turn) :
    Attempt.Booked s.node.validator (s.attempts turns) (s.course turns).node.metrics := by
  refine (notes_induction (motive := fun xs t =>
    t.node.validator = s.node.validator ∧ Attempt.Booked s.node.validator xs t.node.metrics)
    ?_ ⟨rfl, h⟩ turns).2
  rintro xs t turn ⟨hv, hb⟩
  rw [← hv] at hb ⊢
  exact ⟨t.take_validator turn, booked_take hb turn⟩

theorem tracked_course (h : s.node.Tracked []) (turns : List Turn) :
    (s.course turns).node.Tracked (s.marks turns) := by
  refine notes_induction (motive := fun xs s => s.node.Tracked xs) ?_ h turns
  intro xs s turn h
  exact tracked_take h turn

/-- After every run of a node that has been started, the counters agree with what has happened. -/
theorem accounted (config : Config) (secret : Secret) (registry : Rpc.Registry)
    (net net' : Os.Network) (n : Node)
    (h : Node.start { config, secret, registry } net = .ok (n, net')) (now : Instant)
    (turns : List Turn) :
    let s : System := ⟨n, now⟩
    let s' := s.course turns
    let m := s'.node.metrics
    let attempts := s.attempts turns
    let marks := s.marks turns
    m.rejections.total = m.httpRejected + m.handshakesRejected ∧
    m.httpAccepted + m.httpRejected = .ofNat (attempts.countP (·.kind = .call)) ∧
    m.handshakesAccepted + m.handshakesRejected =
      .ofNat (attempts.countP (·.kind = .connection)) ∧
    (∀ e, m.rejections.get e =
      .ofNat (attempts.countP fun a => Gate.Refuses n.validator a.now a.headers e)) ∧
    marks.count .ended ≤ marks.count .started ∧
    m.connections = .ofNat (marks.count .started - marks.count .ended) ∧
    (∀ l r, l ≠ .auth → ∃ connections,
      (s'.take (.input (.request l r))).node.metrics = { m with connections }) ∧
    (∀ l r response, (s'.step (.request l r)).1 = .outcome (.ok (.response response)) →
      response.status = 404 ∨ response.status = 405 →
      (s'.take (.input (.request l r))).node.metrics = m) ∧
    (∀ v t session headers other,
      (Gate.handshake v t m session headers).outcome = .error (.alreadyPerformed other) →
      (Gate.handshake v t m session headers).metrics = m) := by
  intro s s' m attempts marks
  obtain ⟨a, rfl, -⟩ := Node.start_eq_ok h
  have hb : Attempt.Booked s.node.validator attempts m := booked_course .nil turns
  have ht : s'.node.Tracked marks := tracked_course (.nil rfl rfl) turns
  refine ⟨hb.total, hb.sum .call, hb.sum .connection, hb.reasons, ?_, ?_, ?_, ?_, ?_⟩
  · exact Nat.le.intro ht.balance
  · rw [← ht.balance, Nat.add_sub_cancel_left]
    exact ht.counter
  · intro l r hl
    apply take_metrics
    simp only [attempt?, Listener.attempt?, hl, false_and, if_false, ite_self]
  · intro l r response hr hs
    exact take_metrics_of_misfit hr hs
  · intro v t session headers other ho
    rw [Gate.handshake_eq_of_ne (Gate.ne_of_alreadyPerformed ho)]

/-- One attempt among requests that are none. -/
theorem accounted_started :
    let node : Node := {
      config := {}
      secret := ⟨List.replicate 32 7, by decide⟩
      registry := ⟨[Node.web3], by simp⟩ }
    let turns : List Turn := [
      .input (.request .auth ⟨"GET", "/health", [], []⟩),
      .input (.request .auth ⟨"POST", "/", [], []⟩),
      .cut 0 .failure]
    ∃ n net, node.start {} = .ok (n, net) ∧ ∀ now,
      let m := (course ⟨n, now⟩ turns).node.metrics
      m.httpAccepted + m.httpRejected = 1 ∧ m.rejections.get .noCredentialPresented = 1 ∧
        m.connections = 0 := by
  intro node turns
  have hn : (node.start {}).isOk = true := by decide +kernel
  obtain ⟨⟨n, net⟩, hn⟩ := exists_eq_ok hn
  refine ⟨n, net, hn, ?_⟩
  intro now m
  obtain ⟨-, calls, -, reasons, -, connections, -⟩ :=
    accounted node.config node.secret node.registry {} net n hn now turns
  obtain ⟨a, rfl, -⟩ := Node.start_eq_ok hn
  have hattempts : System.attempts ⟨{ node with phase := .running a }, now⟩ turns =
      [⟨.call, now, []⟩] := rfl
  have hmarks : System.marks ⟨{ node with phase := .running a }, now⟩ turns = [] := rfl
  rw [hattempts] at calls reasons
  rw [hmarks] at connections
  exact ⟨calls, reasons .noCredentialPresented, connections⟩

end System

end TokenGate
