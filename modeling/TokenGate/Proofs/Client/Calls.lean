import TokenGate.Proofs.Client.Dialing
/-!
Remote calls are local ones: what a client gets for a call that comes through is what the dispatcher
of the listener makes of it.
-/
namespace TokenGate

open Client (Carrier Comes remote)
open Json (Plain)

/-- The carriers by which a listener takes calls. -/
def Listener.Takes : Listener → Carrier → Prop
  | .http, .http => True
  | .websocket, .websocket => True
  | .auth, _ => True
  | _, _ => False

namespace Dialogue

/-- Dialogues as they come about: a client dials a listener that takes its calls, and keeps calling
while the system takes other inputs, none of them over the client's socket, which no payload that is
too long has ended. -/
inductive Live (l : Listener) : Dialogue → Prop where
  | dial {s : System} {client : Client} {node : Node} (h : s.Live) (ht : l.Takes c)
      (he : s.node.endpoint l c.scheme = .ok endpoint)
      (hd : Client.dialWith (Node.peer l s.now) endpoint provider now s.node = (.ok client, node)) :
      Live l ⟨client, { s with node }⟩
  | step {d : Dialogue} (h : Live l d) (move : Move)
      (hs : ∀ stream, d.client.transport = .websocket stream →
        move.Spares stream.id ∧ move.Fits d) :
      Live l (d.step l move)

/-- What a listener asks for with a call: by request, that the provider makes header fields, and
that those are admitted if there is a gate. -/
def Passes (d : Dialogue) (l : Listener) (now : Instant) : Prop :=
  ∀ target, d.client.transport = .http target →
    ∃ fields provider, Client.credentials d.client.provider now [] = (.ok fields, provider) ∧
      (l = .auth → Gate.Admits d.system.node.validator d.system.now fields)

variable {d : Dialogue} {l : Listener} {method : String} {params : Json} {now : Instant}

/-- The client sends its calls in requests to a listener that answers them. -/
structure Requests (l : Listener) (d : Dialogue) : Prop where
  transport : d.client.transport = .http "/"
  isOpen : (d.system.node.address l).isOk
  listener : l ≠ .websocket

theorem Requests.step (h : Requests l d) (move : Move) : Requests l (d.step l move) := by
  obtain ⟨_, _, _, hn⟩ := d.after_node l [move]
  refine ⟨?_, ?_, h.listener⟩
  · cases move with
    | call method params now =>
      rcases hc : Client.credentials d.client.provider now [] with ⟨e | fields, provider⟩
      · simp only [Dialogue.step, call, Client.call_of_error h.transport hc, h.transport]
      · simp only [Dialogue.step, call, Client.call_of_ok h.transport hc, h.transport]
    | other input => exact h.transport
  · have hn : (d.step l move).system.node = _ := hn
    rw [hn]
    exact h.isOpen

/-- The two ways in which clients are connected. -/
theorem Live.connected (h : Live l d) : Requests l d ∨ ∃ socket, Open l socket d := by
  induction h with
  | @dial c _ _ _ _ _ _ h ht he hd =>
    obtain ⟨ho, hparse⟩ := Node.endpoint_eq_ok he
    cases c with
    | http =>
      rw [Client.dialWith_http hparse] at hd
      cases hd
      refine .inl ⟨rfl, ho, ?_⟩
      rintro rfl
      exact ht
    | websocket => exact .inr ⟨_, (h.open_of_dial hparse hd).1⟩
  | step h move hs ih =>
    rcases ih with ih | ⟨socket, ih⟩
    · exact .inl (ih.step move)
    · obtain ⟨hspares, hfits⟩ := hs _ ih.transport
      exact .inr ⟨socket, ih.step hspares hfits⟩

theorem Live.call_eq (h : Live l d) (hf : d.client.Fits d.system.node method params)
    (hc : d.Passes l now) (hp : Plain 126 params)
    (hr : Comes ((d.system.node.router l).dispatcher.dispatch method (some params) l.caller)) :
    (d.call l .any method params now).1 =
      remote ((d.system.node.router l).dispatcher.dispatch method (some params) l.caller) := by
  rcases h.connected with hreq | ⟨socket, hopen⟩
  · obtain ⟨fields, provider, hc, ha⟩ := hc "/" hreq.transport
    have hs : (Client.payload d.client.nextId method params).text.utf8ByteSize ≤
        Node.maxBodySize := by
      rw [Client.Fits, Client.limit, hreq.transport] at hf
      exact hf
    exact (Client.call_admitted hreq.transport hreq.isOpen hreq.listener hc ha .any).trans
      (Client.readResponse_call hs hp hr "/" fields)
  · have ho := Client.call_open hopen.transport hopen.connection hf .any now d.system.now
    exact (congrArg Prod.fst ho).trans (Client.readMessage_reply hp hr)

/-- A remote call is the local dispatch: at whatever position of a run, the client gets the value
that the dispatcher of the listener gives, or the code and the message of its error, if the payload
is not too long and neither it nor what comes back nests too deep. -/
theorem Live.call_remote (h : Live l d) (hf : d.client.Fits d.system.node method params)
    (hc : d.Passes l now) (hp : Plain 126 params)
    (hr : Comes ((d.system.node.router l).dispatcher.dispatch method (some params) l.caller)) :
    let dispatched := (d.system.node.router l).dispatcher.dispatch method (some params) l.caller
    let result := (d.call l .any method params now).1
    (∀ v, result = .ok v ↔ dispatched = .ok v) ∧
    ∀ code message, result = .error (.rpc code message) ↔
      ∃ data, dispatched = .error ⟨code, message, data⟩ := by
  intro dispatched result
  have he : result = remote dispatched := h.call_eq hf hc hp hr
  rw [he]
  exact ⟨fun v => Client.remote_eq_ok, fun code message => Client.remote_eq_rpc⟩

theorem Live.call_remote_started :
    let node : Node := {
      config := {}
      secret := ⟨List.replicate 32 7, by decide⟩
      registry := ⟨[Node.web3], by simp⟩ }
    ∃ n net, node.start {} = .ok (n, net) ∧ ∀ now, ∃ endpoint client,
      n.httpEndpoint = .ok endpoint ∧
      Client.dial (Node.peer .http now) endpoint now n = (.ok client, n) ∧
      let d := Dialogue.after ⟨client, ⟨n, now⟩⟩ .http [.call "web3_nothing" .null now]
      (d.call .http .any "web3_clientVersion" (.arr []) now).1 = .ok (.str clientVersion) := by
  intro node
  have hn : (node.start {}).isOk = true := by decide +kernel
  obtain ⟨⟨n, net⟩, hn⟩ := exists_eq_ok hn
  refine ⟨n, net, hn, ?_⟩
  intro now
  have hl : System.Live ⟨n, now⟩ := .start hn now
  obtain ⟨addresses, hc, -⟩ := Node.start_eq_ok hn
  have ho : (n.address .http).isOk = true := by
    rw [hl.isOk_address .http, hc]
    rfl
  obtain ⟨endpoint, he⟩ := Node.exists_endpoint ho "http"
  let client : Client := { transport := .http "/", provider := none }
  have hd : Client.dialWith (Node.peer .http now) endpoint none now n = (.ok client, n) :=
    Client.dialWith_http (Node.endpoint_eq_ok (c := .http) he).2
  have hdial : Client.dial (Node.peer .http now) endpoint now n = (.ok client, n) := by
    rw [Client.dial, hd]
  refine ⟨endpoint, client, he, hdial, ?_⟩
  have hlive : Live .http ⟨client, ⟨n, now⟩⟩ :=
    @Live.dial _ .http _ _ _ ⟨n, now⟩ client n hl trivial he hd
  intro d
  have hd : Live .http d := hlive.step (.call "web3_nothing" .null now) nofun
  have hclient : d.client = { client with nextId := 2 } := rfl
  have hdispatch : (d.system.node.router .http).dispatcher.dispatch "web3_clientVersion"
      (some (.arr [])) Listener.http.caller = .ok (.str clientVersion) := by
    have hr : d.system.node.router .http = node.router .http := by
      obtain ⟨_, _, _, hd⟩ :=
        Dialogue.after_node ⟨client, ⟨n, now⟩⟩ .http [.call "web3_nothing" .null now]
      rw [hd, hc]
      rfl
    have hm : Rpc.splitMethod "web3_clientVersion" = some ("web3", "clientVersion") := by decide
    have hapi : (node.router .http).dispatcher.api? "web3" = some Node.web3 := rfl
    rw [hr, Rpc.Dispatcher.dispatch, hm]
    simp only [hapi]
    rfl
  have hsize : (Client.payload 2 "web3_clientVersion" (.arr [])).text.utf8ByteSize ≤
      Node.maxBodySize := by
    decide +kernel
  clear_value d
  have hfits : d.client.Fits d.system.node "web3_clientVersion" (.arr []) := by
    rw [Client.Fits, Client.limit, hclient]
    exact hsize
  have hpasses : d.Passes .http now := by
    rw [Passes, hclient]
    exact fun _ _ => ⟨[], none, rfl, nofun⟩
  have hcomes : Comes ((d.system.node.router .http).dispatcher.dispatch "web3_clientVersion"
      (some (.arr [])) Listener.http.caller) := by
    rw [hdispatch]
    exact .str
  have hparams : Plain 126 (.arr []) := .arr nofun
  have hr := @Live.call_remote d .http "web3_clientVersion" (.arr []) now hd hfits hpasses hparams
    hcomes
  exact (hr.1 _).2 hdispatch

end Dialogue

end TokenGate
