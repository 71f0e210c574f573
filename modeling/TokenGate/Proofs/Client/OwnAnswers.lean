import TokenGate.Proofs.Client.Dialing
import TokenGate.Proofs.Client.Line
/-!
A call over a socket comes to what decides it first. For calls that are answered in turn and with
their ids, this is the answer to the call itself, whichever calls before it have been abandoned. A
node answers with the id of the call, unless it cannot read the call: the error that it sends then,
which bears no id, is taken by the first call that comes to it.
-/
namespace TokenGate

open Client (Bears Carries Comes Decides Line Pays Peer Pending Replies Settles decodeResponse
  idValue isStray)
open Http (Event)
open Json (Plain)
open Rpc (respond)

namespace Client

variable {id : UInt64} {id' j : Json} {result : Except Rpc.Error Json}

theorem bears_respond (h : Json.read? (respond (idValue id) result).text = some j) :
    Bears (.text (respond (idValue id) result).text) id := by
  obtain ⟨hi, -⟩ := Rpc.get?_of_read_respond (plain_idValue id) (Json.read?_eq_some.1 h)
  exact ⟨j, ⟨_, rfl, h⟩, hi⟩

/-- A response with the id of a call and an error without one may answer the call, whether they can
be read or not. -/
theorem replies_respond (hi : id' = idValue id ∨ id' = .null ∧ result.isOk = false) :
    Replies (.text (respond id' result).text) id := by
  cases hr : Json.read? (respond id' result).text with
  | none =>
    right
    simp only [isStray, Event.message?, hr]
  | some j =>
    rcases hi with hi | ⟨hi, he⟩
    · rw [hi] at hr ⊢
      exact .inl (bears_respond hr)
    · rw [hi] at hr ⊢
      obtain ⟨hi, hs⟩ := Rpc.get?_of_read_respond .null (Json.read?_eq_some.1 hr)
      right
      rw [isStray_of_carries ⟨_, rfl, hr⟩, hs, he]
      exact ⟨.inr hi, rfl⟩

theorem carries_parseFailure (details : String) :
    Carries (.text (Rpc.failure .null (.parse details)).text)
      (Rpc.failure .null (.parse details)) := by
  refine ⟨_, rfl, Json.read?_eq_some.2 (Rpc.plain_failure .null ?_).read_text⟩
  rintro d ⟨⟩

theorem read?_payload_lists (id : UInt64) (method : String) :
    Json.read? (payload id method (.lists 126)).text = none := by
  cases hr : Json.read? (payload id method (.lists 126)).text with
  | none => rfl
  | some j =>
    obtain ⟨ms, -, hms⟩ := Json.read_text_members ascending_payload (Json.read?_eq_some.1 hr)
    have hparams := hms "params"
    generalize ms.lookup "params" = o at hparams
    cases hparams with
    | some h => exact (Json.not_readsAs_lists 126 _ h).elim

/-- An error that bears no id is taken by every call. -/
theorem isStray_parseFailure (details : String) :
    isStray (.text (Rpc.failure .null (.parse details)).text) := by
  rw [isStray_of_carries (carries_parseFailure details)]
  exact ⟨.inr rfl, rfl⟩

namespace Line

variable {α σ : Type}

/-- What a call comes to that is completed: the first that it does not pass over, and this is the
answer to itself if nothing stray is left before it. -/
structure Completes (peer : Peer σ) (d : Json.Decoder α) (x : Line σ) (c : Pending)
    (before : List Event) (e : Event) : Prop where
  decides : Decides c.id (x.taken before e) (x.ask peer c).1
  result : ∀ j, Carries (x.taken before e) j → (x.complete peer d c).1 = decodeResponse d j
  own : (∀ e' ∈ x.stream.unread ++ before, ¬ isStray e') → ∀ j, Carries e j →
    (x.complete peer d c).1 = decodeResponse d j

/-- The other end answers a call as soon as it is sent, by one message. -/
structure Prompt (R : Event → UInt64 → Prop) (peer : Peer σ) (x : Line σ) (c : Pending)
    (e : Event) : Prop where
  answered : x.Answered R peer c [] e
  pays : Pays R (x.owed ++ [c]) (peer.send x.stream.id (.text c.payload.text) x.server).1 []

/-- The other end is a node: the socket is one of its connections, and it takes the call. -/
structure Reaches (x : Line Node) (l : Listener) (c : Pending) : Prop where
  connected : x.server.connections.lookup x.stream.id = some (l, l.session)
  fits : c.payload.text.utf8ByteSize ≤ min x.server.maxMessageSize Http.maxFrameSize

/-- What a call leads to on a node. -/
def outcome (x : Line Node) (l : Listener) (c : Pending) : Except Rpc.Error Json :=
  (x.server.router l).dispatcher.dispatch c.method (some c.params) l.caller

/-- The message by which a node answers a call. -/
def reply (x : Line Node) (l : Listener) (c : Pending) : Event :=
  .text ((x.server.router l).handleBody c.payload.text l.caller).text

/-- A node answers a call with the id of the call if it can read the call and what it answers can
be read. This holds of what does not nest too deep and has no floating-point numbers. A call that it
cannot read it answers by an error that bears no id. -/
structure Served (x : Line Node) (l : Listener) (t : Instant) (c : Pending) : Prop where
  replies : x.Prompt Replies (Node.peer l t) c (x.reply l c)
  bears : ∀ j, (Json.read? c.payload.text).isSome → Carries (x.reply l c) j →
    x.Prompt Bears (Node.peer l t) c (x.reply l c)
  plain : Plain 126 c.params → Comes (x.outcome l c) → (Json.read? c.payload.text).isSome ∧
    Carries (x.reply l c) (respond (idValue c.id) (x.outcome l c))
  unread : Json.read? c.payload.text = none →
    ∃ details, x.reply l c = .text (Rpc.failure .null (.parse details)).text

section
variable {peer : Peer σ} {x : Line σ} {c : Pending} {e : Event} {R : Event → UInt64 → Prop}

theorem prompt_of_send (ho : x.owed = [])
    (hs : (peer.send x.stream.id (.text c.payload.text) x.server).1 = [e]) (hr : R e c.id) :
    x.Prompt R peer c e := by
  constructor
  · refine ⟨[], hs, ?_, List.forall_mem_nil _, hr⟩
    rw [ho]
    exact .nil []
  · rw [ho, hs]
    exact .answer hr (.nil [])

theorem Lives.completes (h : x.Lives Replies peer n) (hc : c ∈ x.waiting)
    (ha : x.Answered Replies peer c before e) (d : Json.Decoder α) :
    x.Completes peer d c before e where
  decides := h.ask_decides hc ha
  result j hj := h.complete_eq hc ha hj d
  own hs j hj := by
    apply h.complete_eq hc ha
    rw [taken_of_not_isStray hs]
    exact hj

end

variable {x : Line Node} {l : Listener} {c : Pending}

theorem Reaches.send (h : x.Reaches l c) (t : Instant) :
    (Node.peer l t).send x.stream.id (.text c.payload.text) x.server =
      ([x.reply l c], x.server) :=
  Node.send_text h.connected h.fits t

theorem Reaches.served (h : x.Reaches l c) (ho : x.owed = []) (t : Instant) : x.Served l t c := by
  have hs := congrArg Prod.fst (h.send t)
  constructor
  · apply prompt_of_send ho hs
    obtain ⟨id', result, hb, hid⟩ :=
      handleBody_payload_cases (x.server.router l) l.caller c.id c.method c.params
    rw [reply, Pending.payload, hb]
    exact replies_respond hid
  · rintro j hr ⟨text, hm, hj⟩
    apply prompt_of_send ho hs
    obtain rfl := Option.some.inj hm
    rcases handleBody_payload (x.server.router l) l.caller c.id c.method c.params with
      ⟨details, -, hn⟩ | ⟨params, -, hb⟩
    · rw [Pending.payload, hn] at hr
      cases hr
    · rw [Pending.payload, hb] at hj
      rw [reply, Pending.payload, hb]
      exact bears_respond hj
  · intro hp hc
    constructor
    · have hr : Json.read c.payload.text = .ok c.payload := (plain_payload hp).read_text
      rw [Json.read?, hr]
      rfl
    · refine ⟨_, rfl, ?_⟩
      rw [Pending.payload, handleBody_payload_of_plain hp, Json.read?_eq_some]
      exact (plain_respond (plain_idValue c.id) hc).read_text
  · intro hn
    obtain ⟨details, hd⟩ := Rpc.Router.handleBody_of_read?_eq_none hn
    rw [reply, hd]
    exact ⟨details, rfl⟩

/-- On a node, a call that is abandoned at once leaves behind its answer. -/
theorem Reaches.abandon_eq (h : x.Reaches l c) (hx : x.stream.isOpen) (ho : x.owed = [])
    (t : Instant) : x.abandon (Node.peer l t) c 0 [] =
      { x.without c with
        stream := { x.stream with unread := x.stream.unread ++ [x.reply l c] } } := by
  refine (Line.abandon_eq hx (h.send t) 0 []).trans ?_
  rw [passOver_zero, ← ho]
  rfl

end Client.Line

/-- A node with the built-in service and default settings. -/
def Node.basic : Node where
  config := {}
  secret := ⟨List.replicate 32 7, by decide⟩
  registry := ⟨[Node.web3], by simp⟩

/-- A basic node to which a first client is connected. -/
structure Node.BasicConnected (n : Node) : Prop where
  connected : n.connections.lookup 0 = some (.websocket, Listener.websocket.session)
  router : n.router .websocket = Node.basic.router .websocket
  maxMessageSize : n.maxMessageSize = 1048576

theorem Node.exists_dial_basic : ∃ n net, Node.basic.start {} = .ok (n, net) ∧ ∀ now,
    ∃ endpoint n', n.websocketEndpoint = .ok endpoint ∧
      Client.dial (Node.peer .websocket now) endpoint now n =
        (.ok ⟨.websocket { id := 0 }, none, 1⟩, n') ∧ n'.BasicConnected := by
  have hn : (Node.basic.start {}).isOk = true := by decide +kernel
  obtain ⟨⟨n, net⟩, hn⟩ := exists_eq_ok hn
  refine ⟨n, net, hn, ?_⟩
  intro now
  obtain ⟨addresses, hc, -⟩ := Node.start_eq_ok hn
  have ho : (n.address .websocket).isOk = true := by
    rw [(System.Live.start hn now).isOk_address .websocket, hc]
    rfl
  obtain ⟨endpoint, he⟩ : ∃ endpoint, n.websocketEndpoint = .ok endpoint :=
    Node.exists_endpoint ho "ws"
  obtain ⟨metrics, hd⟩ := Client.dial_websocket he now now
  rw [hc] at he hd ⊢
  exact ⟨endpoint, _, he, hd, rfl, rfl, rfl⟩

namespace Client.Line

theorem reaches_basic {x : Line Node} (h : x.server.BasicConnected) (hi : x.stream.id = 0)
    (hs : c.payload.chars.length ≤ 1000) : x.Reaches .websocket c := by
  constructor
  · rw [hi]
    exact h.connected
  · have hb := utf8ByteSize_ofList_le c.payload.chars
    rw [h.maxMessageSize, Json.text]
    exact Nat.le_trans hb (Nat.le_trans (Nat.mul_le_mul_left 4 hs) (by decide))

theorem outcome_basic {x : Line Node} (h : x.server.BasicConnected) (name : String)
    (hm : Rpc.splitMethod c.method = some ("web3", name)) :
    x.outcome .websocket c = Node.web3.service name (some c.params) := by
  have hapi : (Node.basic.router .websocket).dispatcher.api? "web3" = some Node.web3 := rfl
  rw [outcome, h.router, Rpc.Dispatcher.dispatch, hm]
  simp only [hapi]
  rfl

variable {α σ : Type}

/-- A call over a socket comes to the first event that decides it. Of many calls over one, some of
which have been abandoned after they were sent, each that is completed has the result that is in the
answer to itself, if the other end answers one call after the other, with the ids of the calls. If
it may answer by stray messages too, the first of these that is left is taken in place of it. A node
is of the second kind, and of the first as long as calls and answers can be read. -/
theorem own_answers (peer : Peer σ) (d : Json.Decoder α) :
    (∀ socket unread id body s,
      let sent := peer.send socket (.text body.text) s
      let (result, stream, s') := Client.ask peer ⟨socket, unread, true⟩ id body s
      Settles id (unread ++ sent.1) (result, stream.unread) ∧ s' = sent.2) ∧
    (∀ n (x : Line σ) c before e j, x.Lives Bears peer n → c ∈ x.waiting →
      x.Answered Bears peer c before e → Carries e j →
      (x.complete peer d c).1 = decodeResponse d j) ∧
    (∀ n (x : Line σ) c before e, x.Lives Replies peer n → c ∈ x.waiting →
      x.Answered Replies peer c before e → x.Completes peer d c before e) ∧
    (∀ (x : Line σ) provider method params now,
      let completed := (x.issue method params).complete peer d ⟨x.nextId, method, params⟩
      (x.client provider).call peer d method params now x.server =
        (completed.1, completed.2.client provider, completed.2.server)) ∧
    ∀ (x : Line Node) l t c, x.owed = [] → x.Reaches l c → x.Served l t c := by
  refine ⟨?_, ?_, ?_, ?_, ?_⟩
  · intro socket unread id body s
    exact ask_settles socket peer unread id body s
  · intro n x c before e j h hc ha hj
    exact h.complete_of_bears hc ha hj d
  · intro n x c before e h hc ha
    exact h.completes hc ha d
  · intro x provider method params now
    exact x.call_eq peer d method params provider now
  · intro x l t c ho h
    exact h.served ho t

/-- The result of a call comes in behind the answer to one that has been abandoned. -/
theorem own_answers_abandoned :
    ∃ n net, Node.basic.start {} = .ok (n, net) ∧ ∀ now, ∃ endpoint client n',
      n.websocketEndpoint = .ok endpoint ∧
      Client.dial (Node.peer .websocket now) endpoint now n = (.ok client, n') ∧
      let peer := Node.peer .websocket now
      let nothing : Pending := ⟨1, "web3_nothing", .null⟩
      let version : Pending := ⟨2, "web3_clientVersion", .null⟩
      let x : Line Node := ⟨{ id := 0 }, 1, [], [], n'⟩
      let y := (x.issue nothing.method nothing.params).abandon peer nothing 0 []
      let z := y.issue version.method version.params
      client = x.client none ∧ y.stream.unread ≠ [] ∧
      ((y.client none).call peer .any version.method version.params now y.server).1 =
        .ok (.str clientVersion) ∧
      z.Completes peer .any version [] (z.reply .websocket version) := by
  obtain ⟨n, net, hn, hd⟩ := Node.exists_dial_basic
  refine ⟨n, net, hn, ?_⟩
  intro now
  obtain ⟨endpoint, n', he, hd, hn'⟩ := hd now
  refine ⟨endpoint, _, n', he, hd, ?_⟩
  intro peer nothing version x y z
  obtain ⟨-, hbears, hstray, hcall, hnode⟩ := own_answers peer .any
  have hx : (x.issue nothing.method nothing.params).Lives Bears peer 1 :=
    .issue (.new 0 1 n') (.inl (by decide)) _ _
  have hreach : (x.issue nothing.method nothing.params).Reaches .websocket nothing :=
    reaches_basic hn' rfl (by decide +kernel)
  have hnothing : (x.issue nothing.method nothing.params).outcome .websocket nothing =
      .error (.methodNotFound "web3_nothing") := outcome_basic hn' "nothing" (by decide)
  have hserved := hnode _ .websocket now nothing rfl hreach
  obtain ⟨hr, hj⟩ := hserved.plain .null (by rw [hnothing]; exact nofun)
  have hy : y.Lives Bears peer 1 := hx.abandon List.mem_cons_self (hserved.bears _ hr hj).pays 0
  let left : Line Node :=
    ⟨{ id := 0, unread := [(x.issue nothing.method nothing.params).reply .websocket nothing] }, 2,
      [], [], n'⟩
  have hleft : y = left := hreach.abandon_eq rfl rfl now
  rw [hleft] at hy
  have hz : (left.issue version.method version.params).Lives Bears peer 2 :=
    hy.issue (.inl (by decide)) _ _
  have hversion : (left.issue version.method version.params).outcome .websocket version =
      .ok (.str clientVersion) := outcome_basic hn' "clientVersion" (by decide)
  have hserved := hnode (left.issue version.method version.params) .websocket now version rfl
    (reaches_basic hn' rfl (by decide +kernel))
  obtain ⟨hr, hj⟩ := hserved.plain .null (by rw [hversion]; exact .str)
  have hmem : version ∈ (left.issue version.method version.params).waiting :=
    List.mem_singleton_self _
  have hresult := hbears 2 _ version [] _ _ hz hmem (hserved.bears _ hr hj).answered hj
  rw [hversion] at hresult
  have hz' : z = left.issue version.method version.params := by rw [← hleft]
  rw [hz', hleft]
  refine ⟨rfl, List.cons_ne_nil _ _, ?_, ?_⟩
  · rw [hcall]
    dsimp only
    exact hresult.trans (decodeResponse_respond _ _)
  · exact hstray 2 _ version [] _ (hz.mono fun _ _ => .inl) hmem hserved.replies.answered

/-- A call that nests too deep and has been abandoned leaves behind an error without an id, and the
call after it takes this for its answer, though the node answers it with the version. -/
theorem own_answers_deep :
    ∃ n net, Node.basic.start {} = .ok (n, net) ∧ ∀ now, ∃ endpoint client n',
      n.websocketEndpoint = .ok endpoint ∧
      Client.dial (Node.peer .websocket now) endpoint now n = (.ok client, n') ∧
      let peer := Node.peer .websocket now
      let deep : Pending := ⟨1, "web3_clientVersion", .lists 126⟩
      let version : Pending := ⟨2, "web3_clientVersion", .null⟩
      let x : Line Node := ⟨{ id := 0 }, 1, [], [], n'⟩
      let y := (x.issue deep.method deep.params).abandon peer deep 0 []
      client = x.client none ∧
      deep.payload.text.utf8ByteSize ≤ min n'.maxMessageSize Http.maxFrameSize ∧
      Carries (y.reply .websocket version) (respond (idValue 2) (.ok (.str clientVersion))) ∧
      ∃ message, ((y.client none).call peer .any version.method version.params now y.server).1 =
        .error (.rpc (-32700) message) := by
  obtain ⟨n, net, hn, hd⟩ := Node.exists_dial_basic
  refine ⟨n, net, hn, ?_⟩
  intro now
  obtain ⟨endpoint, n', he, hd, hn'⟩ := hd now
  refine ⟨endpoint, _, n', he, hd, ?_⟩
  intro peer deep version x y
  have hreach : (x.issue deep.method deep.params).Reaches .websocket deep :=
    reaches_basic hn' rfl (by decide +kernel)
  have hserved := hreach.served rfl now
  obtain ⟨details, hreply⟩ := hserved.unread (read?_payload_lists 1 "web3_clientVersion")
  let failure : Json := Rpc.failure .null (.parse details)
  have hy : y.Lives Replies peer 1 :=
    (Lives.issue (.new 0 1 n') (.inl (by decide)) _ _).abandon List.mem_cons_self
      hserved.replies.pays 0
  let left : Line Node := ⟨{ id := 0, unread := [.text failure.text] }, 2, [], [], n'⟩
  have hleft : y = left := by
    refine (hreach.abandon_eq rfl rfl now).trans ?_
    rw [hreply]
    rfl
  rw [hleft] at hy
  have hz : (left.issue version.method version.params).Lives Replies peer 2 :=
    hy.issue (.inl (by decide)) _ _
  have hversion : (left.issue version.method version.params).outcome .websocket version =
      .ok (.str clientVersion) := outcome_basic hn' "clientVersion" (by decide)
  have hserved : (left.issue version.method version.params).Served .websocket now version :=
    (reaches_basic hn' rfl (by decide +kernel)).served rfl now
  have hmem : version ∈ (left.issue version.method version.params).waiting :=
    List.mem_singleton_self _
  have htaken : (left.issue version.method version.params).taken []
      ((left.issue version.method version.params).reply .websocket version) =
      .text failure.text := by
    have hfind : [Event.text failure.text].find? isStray = some (.text failure.text) :=
      List.find?_cons_of_pos (isStray_parseFailure details)
    simp only [taken, issue, left, List.append_nil, hfind, Option.getD_some]
  have hresult := hz.complete_eq hmem hserved.replies.answered
    (htaken ▸ carries_parseFailure details) .any
  rw [hleft]
  refine ⟨rfl, hreach.fits, ?_, "Parse error: " ++ details, ?_⟩
  · obtain ⟨-, hj⟩ := hserved.plain .null (by rw [hversion]; exact .str)
    rw [hversion] at hj
    exact hj
  · rw [call_eq]
    dsimp only
    exact hresult.trans (decodeResponse_respond .null (.error (.parse details)))

end Client.Line

end TokenGate
