import TokenGate.Proofs.Client.Dialogue
import TokenGate.Proofs.Client.Endpoint
/-!
How clients come to be connected. A dial by request sends nothing, and a dial for a socket that is
successful has opened a connection to the listener.
-/
namespace TokenGate

open Http (Headers Request)

namespace Client

variable {σ : Type} {peer : Peer σ} {endpoint target : String} {provider left : Option Provider}
  {now t : Instant} {s : σ} {n n' : Node} {l : Listener} {fields : Headers} {stream : Stream}

theorem dialWith_http (hp : Endpoint.parse endpoint = .ok ⟨.http, target, true⟩) :
    dialWith peer endpoint provider now s = (.ok { transport := .http target, provider }, s) := by
  simp only [dialWith, hp]

theorem dialWith_of_error (hp : Endpoint.parse endpoint = .ok ⟨.websocket, target, true⟩)
    (hc : credentials provider now Http.upgradeFields = (.error e, left)) :
    dialWith peer endpoint provider now s = (.error e, s) := by
  simp only [dialWith, hp, hc]

theorem dialWith_of_ok (hp : Endpoint.parse endpoint = .ok ⟨.websocket, target, true⟩)
    (hc : credentials provider now Http.upgradeFields = (.ok fields, left)) :
    dialWith peer endpoint provider now s =
      ((openSocket peer ⟨.websocket, target, true⟩ fields s).1.map fun stream =>
          { transport := .websocket stream, provider := left },
        (openSocket peer ⟨.websocket, target, true⟩ fields s).2) := by
  simp only [dialWith, hp, hc]

/-- The first call of a client has the id 1. -/
theorem nextId_of_dialWith (h : (dialWith peer endpoint provider now s).1 = .ok c) :
    c.nextId = 1 := by
  simp only [dialWith] at h
  split at h
  · cases h
  · split at h
    · cases h
      rfl
    · split at h
      · cases h
      · next fields left hc =>
        cases ho : (openSocket peer _ fields s).1 with
        | error e =>
          rw [ho] at h
          cases h
        | ok stream =>
          rw [ho] at h
          cases h
          rfl

theorem credentials_of_ok (h : (p.invoke now fields).1 = .ok fields') :
    credentials (some p) now fields = (.ok fields', some (p.invoke now fields).2) := by
  simp only [credentials, h]
  rfl

theorem credentials_of_error (h : (p.invoke now fields).1 = .error e) :
    credentials (some p) now fields = (.error (.provider e), some (p.invoke now fields).2) := by
  simp only [credentials, h]
  rfl

/-- The request by which a client asks a listener for a socket. -/
def upgradeRequest (fields : Headers) : Request := ⟨"GET", "/", fields, []⟩

theorem openSocket_of_admits (h : n.Asks l (upgradeRequest fields))
    (ha : l = .auth → Gate.Admits n.validator t fields) :
    ∃ metrics, openSocket (Node.peer l t) ⟨.websocket, "/", true⟩ fields n =
      (.ok { id := n.opened }, { n with
        connections := n.connections ++ [(n.opened, l, l.session)]
        opened := n.opened + 1
        metrics }) := by
  obtain ⟨metrics, hd⟩ := h.deliver_of_admits ha
  refine ⟨metrics, ?_⟩
  rw [upgradeRequest] at hd
  simp only [openSocket, Node.peer, hd]
  rfl

/-- The listener for plain connections takes every client. -/
theorem dial_websocket (he : n.websocketEndpoint = .ok endpoint) (now t : Instant) :
    ∃ metrics, dial (Node.peer .websocket t) endpoint now n =
      (.ok { transport := .websocket { id := n.opened }, provider := none }, { n with
        connections := n.connections ++ [(n.opened, .websocket, .anonymous)]
        opened := n.opened + 1
        metrics }) := by
  obtain ⟨ho, hparse⟩ := Node.endpoint_eq_ok (c := .websocket) he
  have hasks : n.Asks .websocket (upgradeRequest Http.upgradeFields) :=
    ⟨ho, nofun, rfl, (by decide : Http.targetPath "/" = "/"), by decide⟩
  obtain ⟨metrics, hs⟩ := openSocket_of_admits hasks (t := t) nofun
  have hd : dial (Node.peer .websocket t) endpoint now n = _ := dialWith_of_ok hparse rfl
  rw [hs] at hd
  exact ⟨metrics, hd⟩

theorem openSocket_of_not_admits (h : n.Asks .auth (upgradeRequest fields))
    (ha : ¬ Gate.Admits n.validator t fields) :
    ∃ reason metrics, openSocket (Node.peer .auth t) ⟨.websocket, "/", true⟩ fields n =
      (.error (.dial reason), { n with metrics }) := by
  obtain ⟨metrics, hd⟩ := h.deliver_of_not_admits ha
  rw [upgradeRequest] at hd
  simp only [openSocket, Node.peer, hd]
  exact ⟨_, metrics, rfl⟩

/-- A socket is a connection that the listener has opened for its client. -/
theorem openSocket_eq_ok {e : Endpoint}
    (h : openSocket (Node.peer l t) e fields n = (.ok stream, n')) :
    stream = { id := n.opened } ∧ ∃ metrics, n' = { n with
      connections := n.connections ++ [(n.opened, l, l.session)]
      opened := n.opened + 1
      metrics } := by
  simp only [openSocket, Node.peer, Node.deliver_eq] at h
  have hh := n.handled l t ⟨"GET", e.target, fields, []⟩
  generalize n.handle l t ⟨"GET", e.target, fields, []⟩ = result at h hh
  split at h
  · cases h
  · cases ho : (n.address l).isOk with
    | false =>
      simp only [ho, Bool.false_eq_true, if_false] at h
      cases h
    | true =>
      simp only [ho, if_true] at h
      cases hh with
      | answered r metrics => cases h
      | connected metrics =>
        cases h
        exact ⟨rfl, metrics, rfl⟩

end Client

namespace System

variable {s : System} {l : Listener} {client : Client} {endpoint : String}
  {provider : Option Provider} {now : Instant} {n : Node}

/-- A client that has got the next connection of a node has an open socket. -/
theorem Live.open_next (h : Live s) (ht : client.transport = .websocket { id := s.node.opened })
    (metrics : Metrics) :
    Dialogue.Open l s.node.opened ⟨client, { s with node := { s.node with
      connections := s.node.connections ++ [(s.node.opened, l, l.session)]
      opened := s.node.opened + 1
      metrics } }⟩ := by
  have hn : s.node.connections.lookup s.node.opened = none := by
    rw [lookup_eq_none_iff]
    intro hm
    obtain ⟨c, hc, he⟩ := List.mem_map.1 hm
    exact Nat.lt_irrefl _ (he ▸ h.proper.below c hc)
  refine ⟨ht, ?_⟩
  simp only [List.lookup_append, hn, Option.none_or, lookup_cons, if_true]

theorem Live.open_of_dial (h : Live s)
    (hp : Client.Endpoint.parse endpoint = .ok ⟨.websocket, target, true⟩)
    (hd : Client.dialWith (Node.peer l s.now) endpoint provider now s.node = (.ok client, n)) :
    Dialogue.Open l s.node.opened ⟨client, { s with node := n }⟩ ∧
      ∃ metrics connections opened, n = { s.node with metrics, connections, opened } := by
  rcases hc : Client.credentials provider now Http.upgradeFields with ⟨e | fields, left⟩
  · rw [Client.dialWith_of_error hp hc] at hd
    cases hd
  · rw [Client.dialWith_of_ok hp hc] at hd
    rcases ho : Client.openSocket (Node.peer l s.now) ⟨.websocket, target, true⟩ fields s.node with
      ⟨e | stream, n'⟩
    · rw [ho] at hd
      cases hd
    · obtain ⟨rfl, metrics, hn⟩ := Client.openSocket_eq_ok ho
      rw [ho] at hd
      cases hd
      rw [hn]
      exact ⟨h.open_next rfl metrics, _, _, _, rfl⟩

end System

end TokenGate
