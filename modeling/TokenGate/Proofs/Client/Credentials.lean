import TokenGate.Proofs.Client.Dialing
import TokenGate.Proofs.Provider
/-!
When clients present credentials: over a socket once, for the request that opens it, and otherwise
for every call.
-/
namespace TokenGate

open Http (Headers)

/-- A provider that has been asked for the fields of calls, once at each time. -/
def Provider.asked (p : Provider) (times : List Instant) : Provider :=
  times.foldl (fun p now => (p.invoke now []).2) p

/-- When the client calls, if this is a call. -/
def Move.time? : Move → Option Instant
  | .call _ _ now => some now
  | .other _ => none

namespace Dialogue

variable {α : Type} {d : Dialogue} {l : Listener} {target : String} {p : Provider}

/-- A client that has a socket leaves its provider alone. -/
theorem after_provider (moves : List Move) (ht : d.client.transport = .websocket stream) :
    (d.after l moves).client.provider = d.client.provider := by
  induction moves generalizing d stream with
  | nil => rfl
  | cons move moves ih =>
    cases move with
    | call method params now =>
      have hs : ∃ stream', (d.step l (.call method params now)).client =
          ⟨.websocket stream', d.client.provider, d.client.nextId + 1⟩ := by
        simp only [step, call, Client.call, ht]
        exact ⟨_, rfl⟩
      obtain ⟨stream', hs⟩ := hs
      refine (ih (congrArg Client.transport hs)).trans ?_
      rw [hs]
    | other input => exact ih ht

/-- A client without a socket asks its provider once for every call. -/
theorem after_asked (moves : List Move) (ht : d.client.transport = .http target)
    (hp : d.client.provider = some p) :
    (d.after l moves).client.transport = .http target ∧
      (d.after l moves).client.provider = some (p.asked (moves.filterMap Move.time?)) := by
  induction moves generalizing d p with
  | nil => exact ⟨ht, hp⟩
  | cons move moves ih =>
    cases move with
    | call method params now =>
      have hs : (d.step l (.call method params now)).client =
          ⟨.http target, some (p.invoke now []).2, d.client.nextId + 1⟩ := by
        rcases hi : (p.invoke now []).1 with e | fields
        · have hc := hp ▸ Client.credentials_of_error hi
          simp only [step, call, Client.call_of_error ht hc, ht]
        · have hc := hp ▸ Client.credentials_of_ok hi
          simp only [step, call, Client.call_of_ok ht hc, ht]
      exact ih (congrArg Client.transport hs) (congrArg Client.provider hs)
    | other input => exact ih ht hp

/-- What a call by request comes to, given what its provider has made: it fails with the provider,
is refused if what the provider has made is not admitted at that time, and is otherwise answered for
an authenticated caller. -/
structure Presents (d : Dialogue) (n : Node) (made : Except ProviderError Headers)
    (decoder : Json.Decoder α) (method : String) (params : Json) (now : Instant) : Prop where
  failed : ∀ e, (d.call .auth decoder method params now).1 = .error (.provider e) ↔ made = .error e
  refused : (d.call .auth decoder method params now).1 = .error .unauthorized ↔
    ∃ fields, made = .ok fields ∧ ¬ Gate.Admits n.validator d.system.now fields
  answered : ∀ fields, made = .ok fields → Gate.Admits n.validator d.system.now fields →
    (d.call .auth decoder method params now).1 =
      Client.readResponse (.ok (Node.callResponse (n.router .auth) .authenticated
        (Client.callRequest "/" fields (Client.payload d.client.nextId method params)))) >>=
        Client.decodeResponse decoder

theorem call_presented (ht : d.client.transport = .http "/") (hp : d.client.provider = some p)
    (ho : (d.system.node.address .auth).isOk) (decoder : Json.Decoder α) (method : String)
    (params : Json) (now : Instant) :
    d.Presents d.system.node (p.invoke now []).1 decoder method params now := by
  cases hi : (p.invoke now []).1 with
  | error e =>
    have hr : (d.call .auth decoder method params now).1 = .error (.provider e) := by
      have hc := hp ▸ Client.credentials_of_error hi
      simp only [call, Client.call_of_error ht hc]
    constructor
    · intro e'
      rw [hr]
      simp only [Except.error.injEq, Client.Error.provider.injEq]
    · rw [hr]
      simp only [Except.error.injEq, reduceCtorEq, false_and, exists_false]
    · intro fields he
      cases he
  | ok fields =>
    have hc := hp ▸ Client.credentials_of_ok hi
    by_cases ha : Gate.Admits d.system.node.validator d.system.now fields
    · have hr : (d.call .auth decoder method params now).1 = _ :=
        Client.call_admitted ht ho (by decide) hc (fun _ => ha) decoder
      have hn : (d.call .auth decoder method params now).1 ≠ .error .unauthorized ∧
          ∀ e, (d.call .auth decoder method params now).1 ≠ .error (.provider e) := by
        rw [hr]
        exact Client.readResponse_ne (Node.callResponse_status _ _ _) decoder
      constructor
      · intro e
        simp only [hn.2 e, reduceCtorEq]
      · simp only [hn.1, false_iff, Except.ok.injEq]
        rintro ⟨_, rfl, ha'⟩
        exact ha' ha
      · intro fields' he ha'
        cases he
        exact hr
    · have hr : (d.call .auth decoder method params now).1 = .error .unauthorized :=
        Client.call_not_admitted ht ho hc ha decoder
      constructor
      · intro e
        rw [hr]
        simp only [Except.error.injEq, reduceCtorEq]
      · rw [hr]
        simp only [true_iff]
        exact ⟨fields, rfl, ha⟩
      · intro fields' he ha'
        cases he
        exact (ha ha').elim

/-- A dialogue over a socket for which the client has been admitted: whatever happens afterwards
that spares the socket, the provider is not asked again, and calls count as authenticated as long as
payloads are not too long. -/
structure Admitted (dialogue : Dialogue) (n : Node) (p : Provider) : Prop where
  provider : ∀ moves, (∀ move ∈ moves, move.Spares n.opened) →
    (dialogue.after .auth moves).client.provider = some p
  answered : ∀ moves, (∀ move ∈ moves, move.Spares n.opened) →
    ∀ {α} (decoder : Json.Decoder α) method params now,
      AllFit .auth dialogue (moves ++ [.call method params now]) →
      ((dialogue.after .auth moves).call .auth decoder method params now).1 =
        Client.answered (n.router .auth) .authenticated decoder
          (dialogue.after .auth moves).client.nextId method params
  lost : ∀ moves, (∀ move ∈ moves, move.Spares n.opened) →
    ∀ {α} (decoder : Json.Decoder α) method params now,
      ¬ AllFit .auth dialogue (moves ++ [.call method params now]) →
      ∃ reason, ((dialogue.after .auth moves).call .auth decoder method params now).1 =
        .error (.transport reason)

end Dialogue

namespace System

open Dialogue (AllFit)

variable {s : System} {p : Provider} {endpoint : String} {now : Instant} {fields : Headers}

/-- A client asks a listener for a socket by the fields that its provider has made, if they are
those of the request for one but for tokens. -/
theorem asks_of_bears {n : Node} {l : Listener} (ho : (n.address l).isOk) (hl : l ≠ .http)
    (hb : Http.Bears Http.upgradeFields fields) : n.Asks l (Client.upgradeRequest fields) := by
  refine ⟨ho, hl, rfl, (by decide : Http.targetPath "/" = "/"), ?_⟩
  intro f hf
  have hn : ∀ f ∈ Http.upgradeFields, f.name ≠ Http.authorization ∧
      Http.upgradeFields.get? f.name = some f.value := by decide
  rw [Client.upgradeRequest, hb.get?_eq (hn f hf).1]
  exact (hn f hf).2

/-- A client dials the listener that authenticates. -/
def dialAuth (s : System) (p : Provider) (endpoint : String) (now : Instant) :
    Except Client.Error Client × Node :=
  Client.dialAuthenticated (Node.peer .auth s.now) endpoint (some p) now s.node

theorem dial_admitted (h : Live s) (hp : p.BearerOnly)
    (he : s.node.websocketAuthEndpoint = .ok endpoint)
    (hi : (p.invoke now Http.upgradeFields).1 = .ok fields)
    (ha : Gate.Admits s.node.validator s.now fields) :
    ∃ client, (s.dialAuth p endpoint now).1 = .ok client ∧
      Dialogue.Admitted ⟨client, { s with node := (s.dialAuth p endpoint now).2 }⟩ s.node
        (p.invoke now Http.upgradeFields).2 := by
  obtain ⟨ho, hparse⟩ := Node.endpoint_eq_ok (c := .websocket) he
  obtain ⟨metrics, hs⟩ :=
    Client.openSocket_of_admits (asks_of_bears ho nofun (hp.bears hi)) fun _ => ha
  have hd : s.dialAuth p endpoint now = _ :=
    @Client.dialWith_of_ok _ (Node.peer .auth s.now) _ _ _ _ now s.node _ hparse
      (Client.credentials_of_ok hi)
  rw [hs] at hd
  rw [hd]
  let client : Client :=
    ⟨.websocket { id := s.node.opened }, some (p.invoke now Http.upgradeFields).2, 1⟩
  have ho := @Live.open_next s .auth client h rfl metrics
  refine ⟨client, rfl, ?_, ?_, ?_⟩
  · intro moves _
    exact Dialogue.after_provider moves ho.transport
  · intro moves hm α decoder method params now
    exact (ho.call_after hm decoder method params now).1
  · intro moves hm α decoder method params now
    exact (ho.call_after hm decoder method params now).2

theorem dial_not_admitted (hp : p.BearerOnly)
    (he : s.node.websocketAuthEndpoint = .ok endpoint)
    (hi : (p.invoke now Http.upgradeFields).1 = .ok fields)
    (ha : ¬ Gate.Admits s.node.validator s.now fields) :
    ∃ reason, (s.dialAuth p endpoint now).1 = .error (.dial reason) := by
  obtain ⟨ho, hparse⟩ := Node.endpoint_eq_ok (c := .websocket) he
  obtain ⟨reason, metrics, hs⟩ :=
    Client.openSocket_of_not_admits (asks_of_bears ho nofun (hp.bears hi)) ha
  have hd := @Client.dialWith_of_ok _ (Node.peer .auth s.now) _ _ _ _ now s.node _ hparse
    (Client.credentials_of_ok hi)
  rw [hs] at hd
  exact ⟨reason, congrArg Prod.fst hd⟩

/-- The dial for a socket asks the provider once, and fails exactly if the provider does or what it
makes is not admitted by the clock of that time. -/
structure AuthenticatesOnce (s : System) (p : Provider) (endpoint : String) (now : Instant) :
    Prop where
  failed : ∀ e, (p.invoke now Http.upgradeFields).1 = .error e →
    s.dialAuth p endpoint now = (.error (.provider e), s.node)
  refused : ∀ fields, (p.invoke now Http.upgradeFields).1 = .ok fields →
    ¬ Gate.Admits s.node.validator s.now fields →
    ∃ reason, (s.dialAuth p endpoint now).1 = .error (.dial reason)
  admitted : ∀ fields, (p.invoke now Http.upgradeFields).1 = .ok fields →
    Gate.Admits s.node.validator s.now fields →
    ∃ client, (s.dialAuth p endpoint now).1 = .ok client ∧
      Dialogue.Admitted ⟨client, { s with node := (s.dialAuth p endpoint now).2 }⟩ s.node
        (p.invoke now Http.upgradeFields).2

/-- The dial for requests reaches nobody and asks nobody. The provider is asked once in every call,
whose outcome depends on what it makes and the clock at that time. -/
structure AuthenticatesEachCall (s : System) (p : Provider) (endpoint : String) (client : Client) :
    Prop where
  dials : ∀ {σ} (peer : Client.Peer σ) now state,
    Client.dialAuthenticated peer endpoint (some p) now state = (.ok client, state)
  provider : ∀ moves, (Dialogue.after ⟨client, s⟩ .auth moves).client.provider =
    some (p.asked (moves.filterMap Move.time?))
  presents : ∀ moves {α} (decoder : Json.Decoder α) method params now,
    (Dialogue.after ⟨client, s⟩ .auth moves).Presents s.node
      ((p.asked (moves.filterMap Move.time?)).invoke now []).1 decoder method params now

/-- Over a socket a client authenticates once, in the dial; by requests it does so for every
call. -/
theorem Live.dial_authenticated (h : Live s) (hp : p.BearerOnly) :
    (∀ endpoint now, s.node.websocketAuthEndpoint = .ok endpoint →
      s.AuthenticatesOnce p endpoint now) ∧
    ∀ endpoint, s.node.httpAuthEndpoint = .ok endpoint →
      ∃ client, s.AuthenticatesEachCall p endpoint client := by
  constructor
  · intro endpoint now he
    constructor
    · intro e hi
      exact Client.dialWith_of_error (Node.endpoint_eq_ok (c := .websocket) he).2
        (Client.credentials_of_error hi)
    · intro fields hi ha
      exact dial_not_admitted hp he hi ha
    · intro fields hi ha
      exact dial_admitted h hp he hi ha
  · intro endpoint he
    obtain ⟨ho, hparse⟩ := Node.endpoint_eq_ok (c := .http) he
    let client : Client := { transport := .http "/", provider := some p }
    have hasked (moves : List Move) :=
      @Dialogue.after_asked ⟨client, s⟩ .auth "/" p moves rfl rfl
    refine ⟨client, ?_, fun moves => (hasked moves).2, ?_⟩
    · intro σ peer now state
      exact Client.dialWith_http hparse
    · intro moves α decoder method params now
      obtain ⟨ht, hprovider⟩ := hasked moves
      obtain ⟨_, _, _, hn⟩ := Dialogue.after_node ⟨client, s⟩ .auth moves
      have ha : ((Dialogue.after ⟨client, s⟩ .auth moves).system.node.address .auth).isOk := by
        rw [hn]
        exact ho
      have hpresented := Dialogue.call_presented ht hprovider ha decoder method params now
      -- only the validator and the router of the node count
      rw [hn] at hpresented
      exact ⟨hpresented.failed, hpresented.refused, hpresented.answered⟩

theorem Live.dial_authenticated_started :
    let secret : Secret := ⟨List.replicate 32 7, by decide⟩
    let node : Node := { config := {}, secret, registry := ⟨[Node.web3], by simp⟩ }
    let p := Provider.signed secret 0
    let clock := Move.other (.clock ⟨1000000, 0, by decide, by decide⟩)
    ∃ n net, node.start {} = .ok (n, net) ∧
      (∃ endpoint client, n.websocketAuthEndpoint = .ok endpoint ∧
        let dialed := System.dialAuth ⟨n, .epoch⟩ p endpoint .epoch
        dialed.1 = .ok client ∧
        let d := Dialogue.after ⟨client, ⟨dialed.2, .epoch⟩⟩ .auth [clock]
        (d.call .auth .any "web3_sha3" (.arr []) .epoch).1 =
          Client.answered (n.router .auth) .authenticated .any 1 "web3_sha3" (.arr [])) ∧
      ∃ endpoint client, n.httpAuthEndpoint = .ok endpoint ∧
        Client.dialAuthenticated (Node.peer .auth .epoch) endpoint (some p) .epoch n =
          (.ok client, n) ∧
        let d := Dialogue.after ⟨client, ⟨n, .epoch⟩⟩ .auth [clock]
        (d.call .auth .any "web3_sha3" (.arr []) .epoch).1 = .error .unauthorized := by
  intro secret node p clock
  have hn : (node.start {}).isOk = true := by decide +kernel
  obtain ⟨⟨n, net⟩, hn⟩ := exists_eq_ok hn
  have hl : Live ⟨n, .epoch⟩ := .start hn .epoch
  obtain ⟨addresses, hc, -⟩ := Node.start_eq_ok hn
  obtain ⟨hs, hh⟩ := hl.dial_authenticated (.signed : p.BearerOnly)
  refine ⟨n, net, hn, ?_, ?_⟩
  · have he : ∃ endpoint, n.websocketAuthEndpoint = .ok endpoint := by
      rw [hc]
      exact ⟨_, rfl⟩
    obtain ⟨endpoint, he⟩ := he
    obtain ⟨fields, hf, ha⟩ := Provider.admits_signed secret 0 .epoch Http.upgradeFields
    have hfresh : Token.Fresh (Provider.saturatingAdd (Int64.ofInt Instant.epoch.unixSeconds) 0)
        .epoch ({} : Config).auth.tolerance := by decide
    have hadm : Gate.Admits n.validator .epoch fields := by
      rw [hc]
      exact (ha _ _).2 hfresh
    obtain ⟨client, hd, hcalls⟩ := (hs endpoint .epoch he).admitted fields hf hadm
    have hm : ∀ move ∈ [clock], move.Spares n.opened := by
      intro move hmove
      rw [List.mem_singleton.1 hmove]
      trivial
    have hcalls := hcalls.answered [clock] hm .any "web3_sha3" (.arr []) .epoch
    rw [dialAuth, Client.dialAuthenticated] at hd
    have hid := Client.nextId_of_dialWith hd
    have hparse := (Node.endpoint_eq_ok (c := .websocket) he).2
    obtain ⟨-, _, _, _, hnode⟩ := hl.open_of_dial hparse (Prod.ext hd rfl)
    have hsize : (Client.payload 1 "web3_sha3" (.arr [])).text.utf8ByteSize ≤ 1000 := by
      decide +kernel
    have hmax : (System.dialAuth ⟨n, .epoch⟩ p endpoint .epoch).2.maxMessageSize = 1048576 := by
      refine (congrArg Node.maxMessageSize hnode).trans ?_
      rw [hc]
      rfl
    have hfits (n : Node) (h : n.maxMessageSize = 1048576) :
        client.Fits n "web3_sha3" (.arr []) := by
      rw [Client.Fits, hid, Client.limit, h]
      split
      · exact Nat.le_trans hsize (by decide)
      · exact Nat.le_trans hsize (by decide)
    refine ⟨endpoint, client, he, hd, ?_⟩
    rw [← hid]
    exact hcalls ⟨trivial, hfits _ hmax, trivial⟩
  · have he : ∃ endpoint, n.httpAuthEndpoint = .ok endpoint := by
      rw [hc]
      exact ⟨_, rfl⟩
    obtain ⟨endpoint, he⟩ := he
    obtain ⟨client, hcalls⟩ := hh endpoint he
    refine ⟨endpoint, client, he, hcalls.dials _ _ _, ?_⟩
    apply (hcalls.presents [clock] .any "web3_sha3" (.arr []) .epoch).refused.2
    obtain ⟨fields, hf, ha⟩ := Provider.admits_signed secret 0 .epoch []
    have hstale : ¬ Token.Fresh (Provider.saturatingAdd (Int64.ofInt Instant.epoch.unixSeconds) 0)
        ⟨1000000, 0, by decide, by decide⟩ ({} : Config).auth.tolerance := by decide
    refine ⟨fields, hf, ?_⟩
    rw [hc]
    exact fun hadm => hstale ((ha _ _).1 hadm)

end System

end TokenGate
