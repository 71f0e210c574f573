import TokenGate.Proofs.Node.System
/-!
Requests for connections. One with the fields that sockets ask for gets a connection, unless a gate
refuses it.
-/
namespace TokenGate

open Http (Request Response)

namespace Http

/-- A request asks for a socket if it has the fields for one, whatever else it has. -/
theorem upgradeFault?_eq_none {r : Request} (hm : r.method = "GET")
    (h : ∀ f ∈ upgradeFields, r.headers.get? f.name = some f.value) : upgradeFault? r = none := by
  simp only [upgradeFields, List.forall_mem_cons] at h
  obtain ⟨hc, hu, hv, hk, -⟩ := h
  have hm' : mentions r.headers "connection" "upgrade" = true := by
    simp only [mentions, hc, Option.bind_some, Utf8.decode?_encode]
    decide
  simp only [upgradeFault?, hm, hm', hasValue, hu, hv, hk]
  decide

theorem method_of_upgradeFault? {r : Request} (hf : upgradeFault? r = none) :
    r.method = "GET" := by
  by_contra hm
  rw [upgradeFault?, if_pos hm] at hf
  cases hf

end Http

namespace Node

variable {n : Node} {l : Listener} {now : Instant} {r : Request}

theorem handle_get (hl : l ≠ .http) (hm : r.method = "GET") (hp : Http.targetPath r.path = "/") :
    n.handle l now r = n.connect l now r := by
  have hf : (routes l "/").find? (·.methods.contains "GET") = some ⟨"GET", .connect⟩ := by
    cases l with
    | http => exact (hl rfl).elim
    | websocket => rfl
    | auth => rfl
  simp only [handle, hp, hm, hf, act]
  obtain ⟨outcome, n'⟩ := n.connect l now r
  cases outcome <;> rfl

theorem connect_of_admits (hf : Http.upgradeFault? r = none)
    (ha : l = .auth → Gate.Admits n.validator now r.headers) :
    ∃ metrics, n.connect l now r = (.connected n.opened, { n with
      connections := n.connections ++ [(n.opened, l, l.session)]
      opened := n.opened + 1
      metrics }) := by
  simp only [connect, hf]
  split
  · next hl =>
    subst hl
    simp only [Gate.handshake_of_admits (ha rfl)]
    exact ⟨_, rfl⟩
  · next hl =>
    rw [l.session_of_ne_auth hl]
    exact ⟨_, rfl⟩

theorem connect_of_not_admits (hf : Http.upgradeFault? r = none)
    (ha : ¬ Gate.Admits n.validator now r.headers) :
    ∃ metrics, n.connect .auth now r = (.response Gate.unauthorized, { n with metrics }) := by
  obtain ⟨reason, hr⟩ := (Gate.admits_or_refuses n.validator now r.headers).resolve_left ha
  simp only [connect, hf, if_true, Gate.handshake_of_refuses hr]
  exact ⟨_, rfl⟩

/-- A request that asks a listener for a connection. -/
structure Asks (n : Node) (l : Listener) (r : Request) : Prop where
  isOpen : (n.address l).isOk
  listener : l ≠ .http
  method : r.method = "GET"
  path : Http.targetPath r.path = "/"
  fields : ∀ f ∈ Http.upgradeFields, r.headers.get? f.name = some f.value

theorem Asks.deliver_of_admits (h : n.Asks l r)
    (ha : l = .auth → Gate.Admits n.validator now r.headers) :
    ∃ metrics, n.deliver l now r = (.ok (.connected n.opened), { n with
      connections := n.connections ++ [(n.opened, l, l.session)]
      opened := n.opened + 1
      metrics }) := by
  obtain ⟨metrics, hc⟩ := connect_of_admits (Http.upgradeFault?_eq_none h.method h.fields) ha
  rw [deliver_eq, if_pos h.isOpen, handle_get h.listener h.method h.path, hc]
  exact ⟨metrics, rfl⟩

theorem Asks.deliver_of_not_admits (h : n.Asks .auth r)
    (ha : ¬ Gate.Admits n.validator now r.headers) :
    ∃ metrics, n.deliver .auth now r =
      (.ok (.response Gate.unauthorized), { n with metrics }) := by
  obtain ⟨metrics, hc⟩ := connect_of_not_admits (Http.upgradeFault?_eq_none h.method h.fields) ha
  rw [deliver_eq, if_pos h.isOpen, handle_get h.listener h.method h.path, hc]
  exact ⟨metrics, rfl⟩

end Node

end TokenGate
