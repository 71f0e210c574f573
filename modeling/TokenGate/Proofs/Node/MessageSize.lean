import TokenGate.Proofs.Gate.Replies
import TokenGate.Proofs.Node.Payload
/-!
Messages that are too long. The socket fails at one before the connection can refuse it, so that
nothing is answered on the connection any more.
-/
namespace TokenGate

open Http (Event Request)

/-- A message that the sockets of a node let through. -/
def Node.Fits (n : Node) (message : String) : Prop :=
  message.utf8ByteSize ≤ min n.maxMessageSize Http.maxFrameSize

namespace System

/-- Nothing but texts comes in on a connection. -/
def Texts (id : Nat) (inputs : List Input) : Prop :=
  ∀ e, .frame id e ∈ inputs → ∃ message, e = .text message

/-- No text that comes in on a connection is too long. -/
def AllFit (n : Node) (id : Nat) (inputs : List Input) : Prop :=
  ∀ message, .frame id (.text message) ∈ inputs → n.Fits message

/-- A number that a connection has had which is not open any more. -/
structure Ended (n : Node) (id : Nat) : Prop where
  given : id < n.opened
  closed : n.connections.lookup id = none

variable {s : System} {inputs : List Input} {input : Input} {l : Listener} {session : Gate.Session}
  {id : Nat} {message : String}

theorem allFit_concat {n : Node} :
    AllFit n id (inputs ++ [input]) ↔
      AllFit n id inputs ∧ ∀ message, input = .frame id (.text message) → n.Fits message := by
  constructor
  · intro h
    refine ⟨fun message hm => h message (List.mem_append_left _ hm), ?_⟩
    rintro message rfl
    exact h message List.mem_concat_self
  · rintro ⟨hb, hl⟩ message hm
    rcases List.mem_append.1 hm with hm | hm
    · exact hb message hm
    · exact hl message (List.mem_singleton.1 hm).symm

theorem allFit_concat_text {n : Node} :
    AllFit n id (inputs ++ [.frame id (.text message)]) ↔ AllFit n id inputs ∧ n.Fits message := by
  rw [allFit_concat]
  refine and_congr_right fun _ => ⟨fun h => h message rfl, ?_⟩
  rintro h _ ⟨⟩
  exact h

theorem texts_nil (id : Nat) : Texts id [] := fun _ he => (List.not_mem_nil he).elim

theorem Texts.left (h : Texts id (inputs ++ [input])) : Texts id inputs :=
  fun e he => h e (List.mem_append_left _ he)

theorem Texts.concat (h : Texts id inputs) (message : String) :
    Texts id (inputs ++ [.frame id (.text message)]) := by
  intro e he
  rcases List.mem_append.1 he with he | he
  · exact h e he
  · cases List.mem_singleton.1 he
    exact ⟨message, rfl⟩

theorem after_fits (s : System) (inputs : List Input) (message : String) :
    (s.after inputs).node.Fits message ↔ s.node.Fits message := by
  obtain ⟨_, _, _, h⟩ := s.after_node inputs
  rw [h]
  exact .rfl

theorem step_fits (hc : s.node.connections.lookup id = some (l, session))
    (hf : s.node.Fits message) :
    s.step (.frame id (.text message)) =
      (.events [.text ((s.node.router l).handleBody message session.caller).text], s) := by
  simp only [step, Node.echo_payload hc hf List.mem_cons_self]

theorem step_oversized (hc : s.node.connections.lookup id = some (l, session))
    (hf : ¬ s.node.Fits message) :
    s.step (.frame id (.text message)) =
      (.events [.failure], { s with node := s.node.disconnect id }) := by
  simp only [step, Node.echo_oversized hc hf]

theorem step_ended (h : Ended s.node id) (message : String) :
    s.step (.frame id (.text message)) = (.events [.failure], s) := by
  simp only [step, Node.echo_of_none h.closed]

/-- The numbers of connections that have ended are not given again. -/
theorem Ended.step (h : Ended s.node id) (input : Input) : Ended (s.step input).2.node id := by
  have hs := s.stepped input
  generalize s.step input = result at hs ⊢
  cases hs with
  | quiet answer metrics now ha => exact ⟨h.given, h.closed⟩
  | connected metrics =>
    refine ⟨Nat.lt_succ_of_lt h.given, ?_⟩
    rw [List.lookup_append, h.closed, lookup_cons, if_neg (Nat.ne_of_lt h.given)]
    rfl
  | disconnected events gone hi =>
    refine ⟨h.given, ?_⟩
    simp only [Node.disconnect, lookup_filter_ne, h.closed, ite_self]

theorem Live.ended_disconnect (h : Live s)
    (hc : s.node.connections.lookup id = some (l, session)) :
    Ended (s.node.disconnect id) id := by
  constructor
  · obtain ⟨before, after, he, -⟩ := List.lookup_eq_some_iff.1 hc
    have hm : (id, l, session) ∈ s.node.connections := by rw [he]; simp
    exact h.proper.below _ hm
  · simp only [Node.disconnect, lookup_filter_ne, if_true]

theorem lookup_after (hc : s.node.connections.lookup id = some (l, session))
    (ht : Texts id inputs) (hf : AllFit s.node id inputs) :
    (s.after inputs).node.connections.lookup id = some (l, session) := by
  induction inputs using s.after_induction with
  | start => exact hc
  | step inputs input ih =>
    obtain ⟨hf, hlast⟩ := allFit_concat.1 hf
    have hc := ih ht.left hf
    by_cases hi : ∃ e, input = .frame id e
    · obtain ⟨e, rfl⟩ := hi
      obtain ⟨message, rfl⟩ := ht e List.mem_concat_self
      rw [step_fits hc ((s.after_fits inputs message).2 (hlast message rfl))]
      exact hc
    · exact lookup_step hc fun e he => hi ⟨e, he⟩

theorem Live.ended_after (h : Live s) (hc : s.node.connections.lookup id = some (l, session))
    (ht : Texts id inputs) (hf : ¬ AllFit s.node id inputs) :
    Ended (s.after inputs).node id := by
  induction inputs using s.after_induction with
  | start => exact (hf fun _ hm => (List.not_mem_nil hm).elim).elim
  | step inputs input ih =>
    by_cases hb : AllFit s.node id inputs
    · -- the first message that is too long comes in on the open connection
      rw [allFit_concat, not_and] at hf
      obtain ⟨message, hnot⟩ := not_forall.1 (hf hb)
      obtain ⟨rfl, hm⟩ := Classical.not_imp.1 hnot
      have hc := lookup_after hc ht.left hb
      rw [step_oversized hc fun hm' => hm ((s.after_fits inputs message).1 hm')]
      exact (h.after inputs).ended_disconnect hc
    · exact (ih ht.left hb).step input

/-- A request that asks for a connection. -/
def upgrade : Request := ⟨"GET", "/", Http.upgradeFields, []⟩

/-- A node that offers connections can be started and asked for one. -/
theorem connected_started {config : Config} {secret : Secret} {registry : Rpc.Registry}
    {net : Os.Network} (hn : (Node.start { config, secret, registry } net).isOk)
    (hw : config.websocket.enabled = true) :
    ∃ n net', Node.start { config, secret, registry } net = .ok (n, net') ∧ ∀ now,
      let s := (System.mk n now).after [.request .websocket upgrade]
      Live s ∧ s.node.connections.lookup 0 = some (.websocket, .anonymous) ∧
        s.node.config = config := by
  obtain ⟨⟨n, net'⟩, hn⟩ := exists_eq_ok hn
  refine ⟨n, net', hn, ?_⟩
  intro now s
  obtain ⟨a, ha, -⟩ := Node.start_eq_ok hn
  have hopen : (n.address .websocket).isOk = true := by
    rw [(Live.start hn now).isOk_address .websocket, ha]
    exact hw
  have hasks : n.Asks .websocket upgrade := by
    refine ⟨hopen, by decide, rfl, by decide, ?_⟩
    simp only [Http.upgradeFields, List.forall_mem_cons]
    exact ⟨rfl, rfl, rfl, rfl, List.forall_mem_nil _⟩
  obtain ⟨metrics, hd⟩ :=
    @Node.Asks.deliver_of_admits n .websocket now upgrade hasks fun ha => absurd ha (by decide)
  have hs : s.node =
      { n with connections := [(0, .websocket, .anonymous)], opened := 1, metrics } := by
    have hs : s.node = (n.deliver .websocket now upgrade).2 := rfl
    rw [hs, hd, ha]
    rfl
  refine ⟨(Live.start hn now).after _, ?_, ?_⟩
  · rw [hs]
    rfl
  · rw [hs, ha]

/-- A message gets the reply that is due to it exactly if no message so far on its connection has
been too long, itself included. It is then the router that replies; otherwise the connection has
ended and there is no reply, neither to the message that is too long nor to those after it. -/
theorem Live.answer_message_iff {before : List Input} (h : Live s)
    (hc : s.node.connections.lookup id = some (l, session)) (ht : Texts id before)
    (message : String) :
    let input := Input.frame id (.text message)
    let fit := AllFit s.node id (before ++ [input])
    let c : Gate.Connection := ⟨session, s.node.router l, s.node.maxMessageSize⟩
    let result := (s.after before).step input
    ((∃ reply, c.Due message reply ∧ result.1 = .events [.text reply]) ↔ fit) ∧
    (fit → result.1 = .events [.text (c.router.handleBody message session.caller).text] ∧
      result.2.node.connections.lookup id = some (l, session)) ∧
    (¬ fit → result.1 = .events [.failure] ∧ result.2.node.connections.lookup id = none) := by
  intro input fit c result
  have hlast : Texts id (before ++ [input]) := ht.concat message
  have hstate : result.2 = s.after (before ++ [input]) := (s.after_concat before input).symm
  have hanswered (hf : fit) :
      result.1 = .events [.text (c.router.handleBody message session.caller).text] := by
    obtain ⟨hb, hm⟩ := allFit_concat_text.1 hf
    obtain ⟨_, _, _, hn⟩ := s.after_node before
    have hr : (s.after before).node.router l = s.node.router l := by
      rw [hn]
      rfl
    have hs := step_fits (lookup_after hc ht hb) ((s.after_fits before message).2 hm)
    rw [hr] at hs
    exact congrArg Prod.fst hs
  have hrefused (hf : ¬ fit) : result.1 = .events [.failure] := by
    by_cases hb : AllFit s.node id before
    · have hm : ¬ s.node.Fits message := fun hm => hf (allFit_concat_text.2 ⟨hb, hm⟩)
      have hs := step_oversized (lookup_after hc ht hb)
        fun hm' => hm ((s.after_fits before message).1 hm')
      exact congrArg Prod.fst hs
    · exact congrArg Prod.fst (step_ended (h.ended_after hc ht hb) message)
  refine ⟨⟨?_, ?_⟩, ?_, ?_⟩
  · rintro ⟨reply, -, ha⟩
    by_contra hf
    rw [hrefused hf] at ha
    cases ha
  · intro hf
    have hm : s.node.Fits message := hf message List.mem_concat_self
    exact ⟨_, .answer (Nat.le_trans hm (Nat.min_le_left _ _)), hanswered hf⟩
  · intro hf
    exact ⟨hanswered hf, hstate ▸ lookup_after hc hlast hf⟩
  · intro hf
    exact ⟨hrefused hf, hstate ▸ (h.ended_after hc hlast hf).closed⟩

theorem Live.answer_message_iff_short :
    let node : Node := {
      config := { websocket := { maxMessageSize := 8 } }
      secret := ⟨List.replicate 32 7, by decide⟩
      registry := ⟨[Node.web3], by simp⟩ }
    ∃ n net, node.start {} = .ok (n, net) ∧ ∀ now,
      let s := (System.mk n now).after [.request .websocket upgrade]
      let c : Gate.Connection := ⟨.anonymous, s.node.router .websocket, s.node.maxMessageSize⟩
      (∃ reply, c.Due "[]" reply ∧ (s.step (.frame 0 (.text "[]"))).1 = .events [.text reply]) ∧
      ((s.after [.frame 0 (.text "[1,2,3,4]")]).step (.frame 0 (.text "[]"))).1 =
        .events [.failure] := by
  intro node
  obtain ⟨n, net, hn, hs⟩ := @connected_started node.config node.secret node.registry {}
    (by decide +kernel) rfl
  refine ⟨n, net, hn, ?_⟩
  intro now s c
  obtain ⟨hl, hc, hconfig⟩ := hs now
  have hmax : s.node.maxMessageSize = 8 := by
    rw [Node.maxMessageSize, hconfig]
    rfl
  constructor
  · refine (hl.answer_message_iff hc (texts_nil 0) "[]").1.2 ?_
    intro m hm
    cases List.mem_singleton.1 hm
    rw [Node.Fits, hmax]
    decide
  · refine ((hl.answer_message_iff hc ((texts_nil 0).concat "[1,2,3,4]") "[]").2.2 ?_).1
    intro hf
    have hm := hf "[1,2,3,4]" List.mem_cons_self
    rw [Node.Fits, hmax] at hm
    exact absurd hm (by decide)

/-- A message of nine bytes, where eight are allowed, gets no reply, nor does the next one. -/
theorem oversized_unanswered :
    let node : Node := {
      config := { websocket := { maxMessageSize := 8 } }
      secret := ⟨List.replicate 32 7, by decide⟩
      registry := ⟨[Node.web3], by simp⟩ }
    let long : Input := .frame 0 (.text "[1,2,3,4]")
    let short : Input := .frame 0 (.text "[]")
    ∃ n net, node.start {} = .ok (n, net) ∧ ∀ now,
      let s := (System.mk n now).after [.request .websocket upgrade]
      let c : Gate.Connection := ⟨.anonymous, s.node.router .websocket, s.node.maxMessageSize⟩
      s.node.connections.lookup 0 = some (.websocket, .anonymous) ∧
      (¬ ∃ reply, c.Due "[1,2,3,4]" reply ∧ (s.step long).1 = .events [.text reply]) ∧
      ¬ ∃ reply, c.Due "[]" reply ∧ ((s.after [long]).step short).1 = .events [.text reply] := by
  intro node long short
  obtain ⟨n, net, hn, hs⟩ := @connected_started node.config node.secret node.registry {}
    (by decide +kernel) rfl
  refine ⟨n, net, hn, ?_⟩
  intro now s c
  obtain ⟨hl, hc, hconfig⟩ := hs now
  have hm : ¬ s.node.Fits "[1,2,3,4]" := by
    rw [Node.Fits, Node.maxMessageSize, hconfig]
    decide
  have hgone : Ended (s.after [long]).node 0 :=
    hl.ended_after hc ((texts_nil 0).concat _) fun hf => hm (hf _ List.mem_cons_self)
  refine ⟨hc, ?_, ?_⟩
  · rintro ⟨reply, -, ha⟩
    rw [step_oversized hc hm] at ha
    cases ha
  · rintro ⟨reply, -, ha⟩
    rw [step_ended hgone] at ha
    cases ha

end System

end TokenGate
