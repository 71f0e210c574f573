import TokenGate.Proofs.Node.Handshake
import TokenGate.Proofs.Node.Payload
/-!
What a request does to the counters. On the authenticated listener, a request for a call and a
proper request for a connection are attempts to authenticate; nothing else is counted as accepted
or refused.
-/
namespace TokenGate

open Http (Request Response)

inductive Attempt.Kind where
  | call
  | connection
  deriving DecidableEq

/-- An attempt to authenticate: the header fields that are presented at some time. -/
structure Attempt where
  kind : Attempt.Kind
  now : Instant
  headers : Http.Headers

/-- The attempt that a request to a listener is. -/
def Listener.attempt? (l : Listener) (now : Instant) (r : Request) : Option Attempt :=
  if l = .auth ∧ Http.targetPath r.path = "/" then
    if r.method = "POST" then some ⟨.call, now, r.headers⟩
    else if Http.upgradeFault? r = none then some ⟨.connection, now, r.headers⟩
    else none
  else none

theorem Listener.attempt?_call (hm : r.method = "POST") (hp : Http.targetPath r.path = "/")
    (now : Instant) : Listener.auth.attempt? now r = some ⟨.call, now, r.headers⟩ := by
  rw [attempt?, if_pos ⟨rfl, hp⟩, if_pos hm]

theorem Listener.attempt?_connection (hf : Http.upgradeFault? r = none)
    (hp : Http.targetPath r.path = "/") (now : Instant) :
    Listener.auth.attempt? now r = some ⟨.connection, now, r.headers⟩ := by
  have hm : r.method ≠ "POST" := by
    rw [Http.method_of_upgradeFault? hf]
    decide
  rw [attempt?, if_pos ⟨rfl, hp⟩, if_neg hm, if_pos hf]

/-- How often there has been any reason. -/
def Rejections.total (r : Rejections) : UInt64 := AuthError.all.foldr (fun e n => r.get e + n) 0

theorem Rejections.total_record (r : Rejections) (e : AuthError) :
    (r.record e).total = r.total + 1 := by
  simp only [total, AuthError.all, List.foldr_cons, List.foldr_nil]
  cases e <;> simp only [record, get] <;> ac_rfl

def Metrics.accepted (m : Metrics) : Attempt.Kind → UInt64
  | .call => m.httpAccepted
  | .connection => m.handshakesAccepted

def Metrics.rejected (m : Metrics) : Attempt.Kind → UInt64
  | .call => m.httpRejected
  | .connection => m.handshakesRejected

theorem ofNat_countP_concat (p : α → Bool) (as : List α) (a : α) :
    UInt64.ofNat ((as ++ [a]).countP p) =
      if p a then .ofNat (as.countP p) + 1 else .ofNat (as.countP p) := by
  rw [List.countP_append, List.countP_singleton]
  split
  · rw [UInt64.ofNat_add]
    rfl
  · rfl

namespace Attempt

/-- The reason for which an attempt is refused. -/
def refusal? (v : Token.Validator) (a : Attempt) : Option AuthError :=
  match Gate.authenticate v a.now a.headers with
  | .ok _ => none
  | .error reason => some reason

/-- The counters after an attempt. -/
def book (v : Token.Validator) (m : Metrics) (a : Attempt) : Metrics :=
  match a.kind, a.refusal? v with
  | .call, none => m.httpAccept
  | .call, some reason => m.httpReject reason
  | .connection, none => m.handshakeAccept
  | .connection, some reason => m.handshakeReject reason

variable {v : Token.Validator} {m : Metrics} {attempts : List Attempt}

theorem refusal?_eq_some_iff {a : Attempt} {reason : AuthError} :
    a.refusal? v = some reason ↔ Gate.Refuses v a.now a.headers reason := by
  rw [Gate.refuses_iff, refusal?]
  cases Gate.authenticate v a.now a.headers with
  | ok claims => simp only [reduceCtorEq]
  | error e => simp only [Option.some.injEq, Except.error.injEq]

instance (v : Token.Validator) (a : Attempt) (reason : AuthError) :
    Decidable (Gate.Refuses v a.now a.headers reason) :=
  decidable_of_iff (a.refusal? v = some reason) refusal?_eq_some_iff

theorem perCall_metrics (v : Token.Validator) (now : Instant) (m : Metrics) (r : Request)
    (inner : Rpc.Caller → Request → Response) :
    (Gate.perCall v now m r inner).2 = book v m ⟨.call, now, r.headers⟩ := by
  simp only [Gate.perCall, book, refusal?]
  cases Gate.authenticate v now r.headers with
  | ok claims => rfl
  | error e => rfl

theorem handshake_metrics (v : Token.Validator) (now : Instant) (m : Metrics) (h : Http.Headers) :
    (Gate.handshake v now m .awaitingHandshake h).metrics = book v m ⟨.connection, now, h⟩ := by
  simp only [Gate.handshake, book, refusal?]
  cases Gate.authenticate v now h with
  | ok claims => rfl
  | error e => rfl

/-- The counters tell how many attempts of each kind have been accepted and refused, and how many
for each reason. -/
structure Booked (v : Token.Validator) (attempts : List Attempt) (m : Metrics) : Prop where
  accepted : ∀ k, m.accepted k =
    .ofNat (attempts.countP fun a => a.kind = k ∧ a.refusal? v = none)
  rejected : ∀ k, m.rejected k =
    .ofNat (attempts.countP fun a => a.kind = k ∧ a.refusal? v ≠ none)
  reasons : ∀ e, m.rejections.get e =
    .ofNat (attempts.countP fun a => Gate.Refuses v a.now a.headers e)
  total : m.rejections.total = m.httpRejected + m.handshakesRejected

theorem Booked.nil : Booked v [] {} := by
  constructor
  · intro k
    cases k <;> rfl
  · intro k
    cases k <;> rfl
  · intro e
    cases e <;> rfl
  · rfl

theorem book_accepted (v : Token.Validator) (m : Metrics) (a : Attempt) (k : Kind) :
    (a.book v m).accepted k =
      if a.kind = k ∧ a.refusal? v = none then m.accepted k + 1 else m.accepted k := by
  unfold book
  cases a.kind <;> cases a.refusal? v <;> cases k <;> rfl

theorem book_rejected (v : Token.Validator) (m : Metrics) (a : Attempt) (k : Kind) :
    (a.book v m).rejected k =
      if a.kind = k ∧ a.refusal? v ≠ none then m.rejected k + 1 else m.rejected k := by
  unfold book
  cases a.kind <;> cases a.refusal? v <;> cases k <;> rfl

theorem book_reason (v : Token.Validator) (m : Metrics) (a : Attempt) (e : AuthError) :
    (a.book v m).rejections.get e =
      if Gate.Refuses v a.now a.headers e then m.rejections.get e + 1
      else m.rejections.get e := by
  simp only [← refusal?_eq_some_iff]
  unfold book
  cases a.kind <;> cases a.refusal? v <;>
    simp [Metrics.httpAccept, Metrics.httpReject, Metrics.handshakeAccept, Metrics.handshakeReject,
      Rejections.get_record]

theorem Booked.book (h : Booked v attempts m) (a : Attempt) :
    Booked v (attempts ++ [a]) (a.book v m) := by
  constructor
  · intro k
    rw [book_accepted, h.accepted, ofNat_countP_concat]
    simp only [decide_eq_true_eq]
  · intro k
    rw [book_rejected, h.rejected, ofNat_countP_concat]
    simp only [decide_eq_true_eq]
  · intro e
    rw [book_reason, h.reasons, ofNat_countP_concat]
    simp only [decide_eq_true_eq]
  · have ht := h.total
    simp only [Attempt.book]
    cases a.kind <;> cases a.refusal? v
    · exact ht
    · simp only [Metrics.httpReject, Rejections.total_record, ht]
      ac_rfl
    · exact ht
    · simp only [Metrics.handshakeReject, Rejections.total_record, ht]
      ac_rfl

/-- The counter of connections is another matter. -/
theorem Booked.of_connections (h : Booked v attempts m) (connections : UInt64) :
    Booked v attempts { m with connections } :=
  ⟨h.accepted, h.rejected, h.reasons, h.total⟩

/-- An attempt is accepted or refused. -/
theorem Booked.sum (h : Booked v attempts m) (k : Kind) :
    m.accepted k + m.rejected k = .ofNat (attempts.countP (·.kind = k)) := by
  have hsplit := attempts.countP_eq_countP_filter_add (·.kind = k) (·.refusal? v = none)
  rw [List.countP_filter, List.countP_filter] at hsplit
  rw [h.accepted, h.rejected, ← UInt64.ofNat_add, hsplit]
  simp only [Bool.decide_and, decide_not, ne_eq]

end Attempt

namespace Node

variable {n : Node} {l : Listener} {now : Instant} {r : Request}

/-- The counters after an attempt, if there is one. -/
def book (n : Node) : Option Attempt → Metrics
  | none => n.metrics
  | some a => a.book n.validator n.metrics

/-- A response to a request that does not fit the listener: there is nothing under its path, or not
for its method. -/
def Misfit (response : Response) : Prop := response.status = 404 ∨ response.status = 405

/-- Every request is answered, or opens a connection. An attempt to authenticate is counted once,
and its response is not one of those to requests that do not fit the listener. -/
inductive Counted (n : Node) (l : Listener) (now : Instant) (r : Request) :
    Outcome × Node → Prop where
  | answered (response : Response) (hs : Misfit response → l.attempt? now r = none) :
      Counted n l now r (.response response, { n with metrics := n.book (l.attempt? now r) })
  | connected (session : Gate.Session) :
      Counted n l now r (.connected n.opened, { n with
        connections := n.connections ++ [(n.opened, l, session)]
        opened := n.opened + 1
        metrics := (n.book (l.attempt? now r)).connect })

theorem not_misfit_unauthorized : ¬ Misfit Gate.unauthorized := by
  simp [Misfit, Gate.unauthorized]

theorem not_misfit_callResponse (router : Rpc.Router) (caller : Rpc.Caller) (r : Request) :
    ¬ Misfit (callResponse router caller r) := by
  unfold callResponse
  split
  · simp [Misfit, plainResponse]
  · split
    · simp [Misfit, plainResponse]
    · split
      · simp [Misfit, jsonResponse]
      · simp [Misfit, jsonResponse]

theorem not_misfit_call (n : Node) (l : Listener) (now : Instant) (r : Request) :
    ¬ Misfit (n.call l now r).1 := by
  unfold call
  split
  · simp only [Gate.perCall]
    split
    · exact not_misfit_callResponse _ _ _
    · exact not_misfit_unauthorized
  · exact not_misfit_callResponse _ _ _

/-- A request for a call that is an attempt to authenticate. -/
theorem counted_call (hm : r.method = "POST") (hp : Http.targetPath r.path = "/") :
    Counted n .auth now r (n.handle .auth now r) := by
  have hc : (n.call .auth now r).2 =
      { n with metrics := n.book (Listener.auth.attempt? now r) } := by
    simp only [call, if_true, Attempt.perCall_metrics, book, Listener.attempt?_call hm hp]
  rw [handle_post (by decide) hm hp, hc]
  exact .answered _ fun hs => (not_misfit_call n .auth now r hs).elim

/-- A request for a connection that is an attempt to authenticate. -/
theorem counted_connect (hf : Http.upgradeFault? r = none) (hp : Http.targetPath r.path = "/") :
    Counted n .auth now r (n.handle .auth now r) := by
  have hb : n.book (Listener.auth.attempt? now r) =
      (Gate.handshake n.validator now n.metrics .awaitingHandshake r.headers).metrics := by
    rw [Listener.attempt?_connection hf hp, Attempt.handshake_metrics, book]
  rw [handle_get (by decide) (Http.method_of_upgradeFault? hf) hp]
  simp only [connect, hf, if_true, ← hb]
  split
  · exact .connected _
  · exact .answered _ fun hs => (not_misfit_unauthorized hs).elim

/-- The routes for calls and connections have the path `/`, and calls another method than
connections. -/
theorem route_cases {route : Route}
    (h : (routes l path).find? (·.methods.contains method) = some route) :
    route.action = .health ∨ route.action = .metrics ∨
      route.action = .call ∧ path = "/" ∧ method = "POST" ∨
      route.action = .connect ∧ path = "/" := by
  have hm := List.find?_some h
  have hr := List.mem_of_find?_eq_some h
  unfold routes at hr
  split at hr
  · obtain rfl := List.mem_singleton.1 hr
    refine .inr (.inr (.inl ⟨rfl, rfl, ?_⟩))
    simpa [Route.methods] using hm
  · obtain rfl := List.mem_singleton.1 hr
    exact .inl rfl
  · obtain rfl := List.mem_singleton.1 hr
    exact .inr (.inl rfl)
  · obtain rfl := List.mem_singleton.1 hr
    exact .inr (.inr (.inr ⟨rfl, rfl⟩))
  · rcases List.mem_cons.1 hr with rfl | hr
    · exact .inr (.inr (.inr ⟨rfl, rfl⟩))
    · obtain rfl := List.mem_singleton.1 hr
      refine .inr (.inr (.inl ⟨rfl, rfl, ?_⟩))
      simpa [Route.methods] using hm
  · exact (List.not_mem_nil hr).elim

/-- A request that is no attempt to authenticate leaves the counters alone, unless it opens a
connection. -/
theorem counted_of_no_attempt (ha : l.attempt? now r = none) :
    Counted n l now r (n.handle l now r) := by
  have hb : n.book (l.attempt? now r) = n.metrics := by rw [ha, book]
  have answered (response : Response) : Counted n l now r (.response response, n) := by
    have hc := @Counted.answered n l now r response fun _ => ha
    rwa [hb] at hc
  simp only [handle]
  split
  · next route h =>
    rcases route_cases h with hr | hr | ⟨hr, hp, hm⟩ | ⟨hr, hp⟩
    · rw [hr]
      exact answered _
    · rw [hr]
      exact answered _
    · -- On the authenticated listener this would be an attempt.
      have hl : l ≠ .auth := by
        rintro rfl
        cases ha.symm.trans (Listener.attempt?_call hm hp now)
      rw [hr]
      simp only [act, call, if_neg hl]
      exact answered _
    · rw [hr]
      simp only [act, connect]
      split
      · exact answered _
      · next hf =>
        have hl : l ≠ .auth := by
          rintro rfl
          cases ha.symm.trans (Listener.attempt?_connection hf hp now)
        rw [if_neg hl]
        have hc := @Counted.connected n l now r .anonymous
        rwa [hb] at hc
  · exact answered _

theorem counted (n : Node) (l : Listener) (now : Instant) (r : Request) :
    Counted n l now r (n.handle l now r) := by
  cases ha : l.attempt? now r with
  | none => exact counted_of_no_attempt ha
  | some a =>
    unfold Listener.attempt? at ha
    split at ha
    · next hl =>
      obtain ⟨rfl, hp⟩ := hl
      split at ha
      · next hm => exact counted_call hm hp
      · split at ha
        · next hf => exact counted_connect hf hp
        · cases ha
    · cases ha

end Node

end TokenGate
