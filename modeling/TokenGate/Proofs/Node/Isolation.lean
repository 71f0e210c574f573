import TokenGate.Proofs.Node.Services
/-!
Isolation of authenticated services: over whole runs of a node, what they do shows only in the
bodies of answers to callers who have passed a gate.
-/
namespace TokenGate

open Http (Event Request)
open Rpc (Registry)

def Answer.withoutBodies : Answer → Answer
  | .nothing => .nothing
  | .outcome r => .outcome (r.map Node.Outcome.withoutBody)
  | .events es => .events (es.map Event.withoutText)

namespace System

def answer (s : System) (inputs : List Input) (input : Input) : Answer :=
  ((s.after inputs).step input).1

/-- After a number of inputs, the next one is from a caller who has passed a gate: it is a request
to call that is itself admitted, or it comes on a connection whose request was admitted when it was
made. -/
def Granted (s : System) (inputs : List Input) : Input → Prop
  | .clock _ => False
  | .request l r => Node.CallAdmitted s.node.validator (s.after inputs).now l r
  | .frame id _ => ∃ t r, s.Opens inputs .auth t r id ∧ Gate.Admits s.node.validator t r.headers

/-- After a number of inputs, the next one reaches a plain listener. -/
def Plain (s : System) (inputs : List Input) : Input → Prop
  | .clock _ => False
  | .request l _ => l ≠ .auth
  | .frame id _ => ∃ l t r, l ≠ .auth ∧ s.Opens inputs l t r id

variable {s s' s'' : System} {inputs : List Input} {input : Input}

/-- The connections that a run has left open, against what the run did. -/
structure Sound (s : System) (inputs : List Input) (s' : System) : Prop where
  below : ∀ c ∈ s'.node.connections, c.1 < s'.node.opened
  authenticated : ∀ id l, s'.node.connections.lookup id = some (l, .authenticated) →
    ∃ t r, s.Opens inputs .auth t r id ∧ Gate.Admits s.node.validator t r.headers
  plain : ∀ id l t r, l ≠ .auth → s.Opens inputs l t r id →
    id < s'.node.opened ∧ ∀ l', s'.node.connections.lookup id ≠ some (l', .authenticated)

theorem Sound.start (h : s.node.connections = []) : s.Sound [] s := by
  refine ⟨?_, ?_, ?_⟩
  · rw [h]
    exact fun c hc => (List.not_mem_nil hc).elim
  · rw [h]
    exact fun id l hl => nomatch hl
  · exact fun id l t r _ ho => (not_opens_nil ho).elim

theorem Sound.lookup_opened (h : s.Sound inputs s') :
    s'.node.connections.lookup s'.node.opened = none := by
  rw [lookup_eq_none_iff]
  intro hm
  obtain ⟨c, hc, he⟩ := List.mem_map.1 hm
  exact Nat.lt_irrefl _ (he ▸ h.below c hc)

/-- Connections may end. -/
theorem Sound.of_subset (h : s.Sound inputs s')
    (hm : ∀ c ∈ s''.node.connections, c ∈ s'.node.connections)
    (hl : ∀ id c, s''.node.connections.lookup id = some c → s'.node.connections.lookup id = some c)
    (hn : s''.node.opened = s'.node.opened)
    (ho : ∀ l t r id, s.Opens (inputs ++ [input]) l t r id ↔ s.Opens inputs l t r id) :
    s.Sound (inputs ++ [input]) s'' := by
  refine ⟨?_, ?_, ?_⟩
  · intro c hc
    rw [hn]
    exact h.below c (hm c hc)
  · intro id l he
    simp only [ho]
    exact h.authenticated id l (hl id _ he)
  · intro id l t r ha hopen
    obtain ⟨hlt, hne⟩ := h.plain id l t r ha ((ho _ _ _ _).1 hopen)
    rw [hn]
    exact ⟨hlt, fun l' he => hne l' (hl id _ he)⟩

/-- A new connection has a number that none has had before, so what is known of the others stays. -/
theorem Sound.connected (h : s.Sound inputs s') (hs : session = .authenticated → l = .auth ∧
      Gate.Admits s.node.validator t r.headers)
    (ho : ∀ l' t' r' id, s.Opens (inputs ++ [input]) l' t' r' id ↔ s.Opens inputs l' t' r' id ∨
      l = l' ∧ r = r' ∧ t = t' ∧ s'.node.opened = id) :
    s.Sound (inputs ++ [input]) { s' with node := { s'.node with
      connections := s'.node.connections ++ [(s'.node.opened, l, session)]
      opened := s'.node.opened + 1
      metrics } } := by
  have hlook (id : Nat) :
      (s'.node.connections ++ [(s'.node.opened, l, session)]).lookup id =
        (s'.node.connections.lookup id).or
          (if id = s'.node.opened then some (l, session) else none) := by
    rw [List.lookup_append, lookup_cons]
    rfl
  refine ⟨?_, ?_, ?_⟩
  · intro c hc
    rcases List.mem_append.1 hc with hc | hc
    · exact Nat.lt_succ_of_lt (h.below c hc)
    · rw [List.mem_singleton.1 hc]
      exact Nat.lt_succ_self _
  · intro id l' hl
    simp only [hlook] at hl
    cases hc : s'.node.connections.lookup id with
    | some c =>
      rw [hc, Option.some_or] at hl
      obtain ⟨t', r', hopen, hadm⟩ := h.authenticated id l' (hc.trans hl)
      exact ⟨t', r', (ho _ _ _ _).2 (.inl hopen), hadm⟩
    | none =>
      rw [hc, Option.none_or] at hl
      split at hl
      · next hid =>
        cases hl
        obtain ⟨rfl, hadm⟩ := hs rfl
        exact ⟨t, r, (ho _ _ _ _).2 (.inr ⟨rfl, rfl, rfl, hid.symm⟩), hadm⟩
      · cases hl
  · intro id l' t' r' hl hopen
    simp only [hlook]
    rcases (ho _ _ _ _).1 hopen with hopen | ⟨rfl, -, -, rfl⟩
    · -- An older connection has another number than the new one.
      obtain ⟨hlt, hne⟩ := h.plain id l' t' r' hl hopen
      refine ⟨Nat.lt_succ_of_lt hlt, ?_⟩
      rw [if_neg (Nat.ne_of_lt hlt), Option.or_none]
      exact hne
    · refine ⟨Nat.lt_succ_self _, ?_⟩
      rw [h.lookup_opened, if_pos rfl, Option.none_or]
      intro l'' he
      cases he
      exact hl (hs rfl).1

theorem Sound.step (h : s.Sound inputs (s.after inputs)) (input : Input) :
    s.Sound (inputs ++ [input]) ((s.after inputs).step input).2 := by
  have hstep := (s.after inputs).stepped input
  have ho := @opens_concat_iff s inputs input
  have hv := after_validator s inputs
  generalize (s.after inputs).step input = result at hstep ho ⊢
  cases hstep with
  | quiet answer metrics now ha =>
    refine h.of_subset (fun _ => id) (fun _ _ => id) rfl ?_
    intro l t r id
    rw [ho]
    exact or_iff_left fun hn => ha id hn.2.2
  | connected metrics hi hs =>
    rw [hv] at hs
    apply h.connected fun ha =>
      have hl := Listener.session_eq_authenticated.1 ha
      ⟨hl, hs hl⟩
    intro l' t' r' id
    rw [ho, hi]
    simp only [Input.request.injEq, Answer.outcome.injEq, Except.ok.injEq,
      Node.Outcome.connected.injEq, and_assoc]
  | disconnected events gone hi =>
    refine h.of_subset (fun c hc => (List.mem_filter.1 hc).1) ?_ rfl ?_
    · intro id c hc
      simp only [Node.disconnect, lookup_filter_ne] at hc
      split at hc
      · cases hc
      · exact hc
    · intro l t r id
      rw [ho]
      exact or_iff_left fun hn => nomatch hn.2.2

theorem sound (s : System) (h : s.node.connections = []) (inputs : List Input) :
    s.Sound inputs (s.after inputs) :=
  s.after_induction (.start h) (fun _ input ih => ih.step input) inputs

/-- Two systems that differ in their addresses, and in what services do that ask for
authentication. -/
def Alike (s s' : System) : Prop :=
  ∃ registry phase, s' = { s with node := s.node.offering registry phase } ∧
    s.node.registry.AgreesOpenly registry ∧
    ∀ l, ((s.node.offering registry phase).address l).isOk = (s.node.address l).isOk

theorem Alike.metrics_eq (h : Alike s s') : s'.node.metrics = s.node.metrics := by
  obtain ⟨registry, phase, rfl, -⟩ := h
  rfl

theorem step_offering {registry : Registry} {phase : Node.Phase}
    (ha : ∀ l, ((s.node.offering registry phase).address l).isOk = (s.node.address l).isOk)
    (input : Input) :
    (step { s with node := s.node.offering registry phase } input).2 =
        { (s.step input).2 with node := (s.step input).2.node.offering registry phase } ∧
      (step { s with node := s.node.offering registry phase } input).1.withoutBodies =
        (s.step input).1.withoutBodies := by
  cases input with
  | clock now => exact ⟨rfl, rfl⟩
  | request l r =>
    obtain ⟨hn, hb⟩ := s.node.deliver_offering registry phase l s.now r (ha l)
    simp only [step, hn, Answer.withoutBodies, hb, and_self]
  | frame id e =>
    obtain ⟨hn, hb⟩ := s.node.echo_offering registry phase id e
    simp only [step, hn, Answer.withoutBodies, hb, and_self]

theorem Alike.step (h : Alike s s') (input : Input) :
    Alike (s.step input).2 (s'.step input).2 := by
  obtain ⟨registry, phase, rfl, hr, ha⟩ := h
  refine ⟨registry, phase, (step_offering ha input).1, ?_⟩
  obtain ⟨metrics, connections, opened, hn⟩ := s.step_node input
  rw [hn]
  exact ⟨hr, ha⟩

theorem Alike.after (h : Alike s s') (inputs : List Input) :
    Alike (s.after inputs) (s'.after inputs) := by
  induction inputs using s.after_induction with
  | start => exact h
  | step inputs input ih =>
    rw [after_concat]
    exact ih.step input

theorem Alike.withoutBodies_eq (h : Alike s s') (input : Input) :
    (s'.step input).1.withoutBodies = (s.step input).1.withoutBodies := by
  obtain ⟨registry, phase, rfl, -, ha⟩ := h
  exact (step_offering ha input).2

/-- The input is a call that the gate admits, or comes on a connection that counts as
authenticated. -/
def Entitled (s : System) : Input → Prop
  | .clock _ => False
  | .request l r => Node.CallAdmitted s.node.validator s.now l r
  | .frame id _ => ∃ l, s.node.connections.lookup id = some (l, .authenticated)

theorem Alike.answer_eq (h : Alike s s') (hn : ¬ s.Entitled input) :
    (s'.step input).1 = (s.step input).1 := by
  obtain ⟨registry, phase, rfl, hr, ha⟩ := h
  cases input with
  | clock now => rfl
  | request l r =>
    exact congrArg Answer.outcome (Node.deliver_offering_of_not_admits hr phase (ha l) hn)
  | frame id e =>
    exact congrArg Answer.events
      (Node.echo_offering_of_not_authenticated hr phase e (not_exists.1 hn))

theorem Sound.granted (h : s.Sound inputs (s.after inputs))
    (he : (s.after inputs).Entitled input) : s.Granted inputs input := by
  cases input with
  | clock now => exact he
  | request l r =>
    rw [Entitled, after_validator] at he
    exact he
  | frame id e =>
    obtain ⟨l, hl⟩ := he
    exact h.authenticated id l hl

theorem Sound.not_entitled (h : s.Sound inputs (s.after inputs)) (hp : s.Plain inputs input) :
    ¬ (s.after inputs).Entitled input := by
  cases input with
  | clock now => exact hp.elim
  | request l r => exact fun he => hp he.listener
  | frame id e =>
    obtain ⟨l, t, r, hl, hopen⟩ := hp
    exact not_exists.2 (h.plain id l t r hl hopen).2

/-- Nodes that are started alike are alike. -/
theorem alike_of_start (hr : r₁.AgreesOpenly r₂)
    (h₁ : Node.start { config, secret, registry := r₁ } net₁ = .ok (n₁, net₁'))
    (h₂ : Node.start { config, secret, registry := r₂ } net₂ = .ok (n₂, net₂')) (now : Instant) :
    Alike ⟨n₁, now⟩ ⟨n₂, now⟩ := by
  obtain ⟨a₁, rfl, hh₁, hw₁⟩ := Node.start_eq_ok h₁
  obtain ⟨a₂, rfl, hh₂, hw₂⟩ := Node.start_eq_ok h₂
  refine ⟨r₂, .running a₂, rfl, hr, ?_⟩
  intro l
  cases l with
  | http =>
    change (Node.enabledAddress "http" a₂.http).isOk = (Node.enabledAddress "http" a₁.http).isOk
    rw [Node.isOk_enabledAddress, Node.isOk_enabledAddress, hh₁, hh₂]
  | websocket =>
    change (Node.enabledAddress "ws" a₂.websocket).isOk =
      (Node.enabledAddress "ws" a₁.websocket).isOk
    rw [Node.isOk_enabledAddress, Node.isOk_enabledAddress, hw₁, hw₂]
  | auth => rfl

end System

/-- Two nodes are started that differ only in what services do that ask for authentication. After
any run they have counted the same, and their answers to a further input are the same but for the
bodies of answers to callers who have passed a gate. -/
theorem System.isolated (config : Config) (secret : Secret) (r₁ r₂ : Registry)
    (hr : r₁.AgreesOpenly r₂) (n₁ n₂ : Node) (net₁ net₂ net₁' net₂' : Os.Network)
    (h₁ : Node.start { config, secret, registry := r₁ } net₁ = .ok (n₁, net₁'))
    (h₂ : Node.start { config, secret, registry := r₂ } net₂ = .ok (n₂, net₂'))
    (now : Instant) (inputs : List Input) (input : Input) :
    let s₁ : System := ⟨n₁, now⟩
    let s₂ : System := ⟨n₂, now⟩
    (s₂.after inputs).node.metrics = (s₁.after inputs).node.metrics ∧
      (s₂.answer inputs input).withoutBodies = (s₁.answer inputs input).withoutBodies ∧
      (s₂.answer inputs input ≠ s₁.answer inputs input → s₁.Granted inputs input) ∧
      (s₁.Plain inputs input → s₂.answer inputs input = s₁.answer inputs input) := by
  intro s₁ s₂
  have ha : Alike (s₁.after inputs) (s₂.after inputs) := (alike_of_start hr h₁ h₂ now).after inputs
  have hsound : s₁.Sound inputs (s₁.after inputs) := by
    apply s₁.sound
    obtain ⟨a, rfl, -⟩ := Node.start_eq_ok h₁
    rfl
  refine ⟨ha.metrics_eq, ha.withoutBodies_eq input, ?_, ?_⟩
  · intro hne
    by_contra hg
    exact hne (ha.answer_eq fun he => hg (hsound.granted he))
  · intro hp
    exact ha.answer_eq (hsound.not_entitled hp)

theorem System.isolated_pair :
    let api (service : Rpc.Service) : Rpc.Api := { name := "a", service, authenticated := true }
    let node (service : Rpc.Service) : Node := {
      config := {}
      secret := ⟨List.replicate 32 7, by decide⟩
      registry := ⟨[api service], by simp⟩ }
    let zero : Rpc.Service := fun _ _ => .ok (.bool false)
    let one : Rpc.Service := fun _ _ => .ok (.bool true)
    ∃ n₁ n₂ net₁ net₂,
      (node zero).start {} = .ok (n₁, net₁) ∧ (node one).start {} = .ok (n₂, net₂) ∧
      ∀ now inputs l r, l ≠ .auth →
        (System.mk n₂ now).answer inputs (.request l r) =
          (System.mk n₁ now).answer inputs (.request l r) := by
  intro api node zero one
  have hr : (node zero).registry.AgreesOpenly (node one).registry := by
    intro name
    simp only [Registry.get?, node, List.find?_singleton, api]
    split
    · exact .some ⟨rfl, nofun⟩
    · exact .none
  have h₁ : ((node zero).start {}).isOk = true := by decide +kernel
  have h₂ : ((node one).start {}).isOk = true := by decide +kernel
  obtain ⟨⟨n₁, net₁⟩, h₁⟩ := exists_eq_ok h₁
  obtain ⟨⟨n₂, net₂⟩, h₂⟩ := exists_eq_ok h₂
  refine ⟨n₁, n₂, net₁, net₂, h₁, h₂, ?_⟩
  intro now inputs l r hl
  exact (isolated _ _ _ _ hr n₁ n₂ _ _ _ _ h₁ h₂ now inputs (.request l r)).2.2.2 hl

end TokenGate
