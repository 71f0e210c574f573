import TokenGate.Config.Environment
import TokenGate.Proofs.Net.Overlap
import TokenGate.Proofs.Node.Listeners
/-!
What validation makes sure of. Listeners with a port in common have hosts that are written
differently and are not unspecified; two such hosts can still have an address in common.
-/
namespace TokenGate.Config

open Net (IpAddr SocketAddr)

variable {c : Config} {a b : SocketAddr}

theorem collides_iff : collides a b ↔
    a.port = b.port ∧ a.port ≠ 0 ∧
      (a.ip = b.ip ∨ a.ip.isUnspecified ∨ b.ip.isUnspecified) := by
  simp only [collides, Bool.and_eq_true, Bool.or_eq_true, bne_iff_ne, beq_iff_eq, or_assoc]
  constructor
  · rintro ⟨⟨⟨ha, -⟩, hp⟩, hi⟩
    exact ⟨hp, ha, hi⟩
  · rintro ⟨hp, ha, hi⟩
    exact ⟨⟨⟨ha, hp ▸ ha⟩, hp⟩, hi⟩

theorem wanted_pairwise {r : SocketAddr → SocketAddr → Prop} : c.wanted.Pairwise r ↔
    (c.http.enabled → c.websocket.enabled → r c.httpAddr c.websocketAddr) ∧
      (c.http.enabled → r c.httpAddr c.authAddr) ∧
      (c.websocket.enabled → r c.websocketAddr c.authAddr) := by
  unfold wanted
  cases c.http.enabled <;> cases c.websocket.enabled <;> simp [and_assoc]

theorem validate_eq_ok_iff : c.validate = .ok () ↔
    (c.wanted.Pairwise fun a b => ¬ collides a b) ∧ c.auth.tolerance.toNanos ≠ 0 ∧
      c.websocket.maxMessageSize ≠ 0 ∧ c.http.maxBatchSize ≠ 0 := by
  simp only [validate, ite_error_eq_ok, wanted_pairwise, not_and]
  constructor
  · rintro ⟨hha, hwa, hhw, ht, hm, hb, -⟩
    exact ⟨⟨hhw, hha, hwa⟩, ht, hm, hb⟩
  · rintro ⟨⟨hhw, hha, hwa⟩, ht, hm, hb⟩
    exact ⟨hha, hwa, hhw, ht, hm, hb, trivial⟩

/-- Two listeners of a valid configuration with a port in common have an address in common exactly
if one of their hosts is a mapped address behind which the other host is. -/
theorem overlapping_iff (h : c.validate = .ok ()) :
    c.wanted.Pairwise fun a b => a.port = b.port → a.port ≠ 0 →
      ((∃ x, a.ip.covers x ∧ b.ip.covers x) ↔ a.ip.Disguises b.ip ∨ b.ip.Disguises a.ip) := by
  refine (validate_eq_ok_iff.1 h).1.imp ?_
  intro a b hc hp h0
  have hhosts : ¬ (a.ip = b.ip ∨ a.ip.isUnspecified ∨ b.ip.isUnspecified) := fun hi =>
    hc (collides_iff.2 ⟨hp, h0, hi⟩)
  rw [not_or, not_or] at hhosts
  obtain ⟨hne, ha, hb⟩ := hhosts
  rw [← IpAddr.overlaps_iff]
  exact IpAddr.overlaps_iff_disguises hne ha hb

/-- Of three listeners at one port, one has a mapped address that nobody else has, and another one
the mapped form of the address that stands for all of the older kind. -/
theorem overlapping_iff_mapped :
    let mapped (g h : UInt16) : IpAddr := .v6 ⟨#[0, 0, 0, 0, 0, 0xffff, g, h], rfl⟩
    let c : Config := {
      http := { host := mapped 0x7f00 2, port := 80 }
      websocket := { port := 80 }
      auth := { host := mapped 0 0, port := 80 } }
    c.validate = .ok () ∧ (¬ ∃ x, c.http.host.covers x ∧ c.websocket.host.covers x) ∧
      ∃ x, c.http.host.covers x ∧ c.auth.host.covers x := by
  intro mapped c
  have hv : c.validate = .ok () := validate_eq_ok_iff.2 (by decide +kernel)
  obtain ⟨hplain, hauth, -⟩ := wanted_pairwise.1 (overlapping_iff hv)
  refine ⟨hv, ?_, ?_⟩
  · exact mt (hplain rfl rfl rfl (by decide)).1 (by decide +kernel)
  · exact (hauth rfl rfl (by decide)).2 (by decide +kernel)

/-- The environment gives the authenticated listener the address and the port of a plain one. -/
theorem mapped_overlaps :
    let env : Environment := fun name =>
      if name = "QC_AUTH_ADDR" then some "::ffff:127.0.0.1"
      else if name = "QC_AUTH_PORT" then some "8545"
      else none
    let c := ({} : Config).overlayEnv env
    c.validate = .ok () ∧ ¬ c.wanted.Pairwise fun a b => a.port = b.port → a.port ≠ 0 →
      ¬ ∃ x, a.ip.covers x ∧ b.ip.covers x := by
  intro env c
  have hc : c = { auth := {
      host := .v6 ⟨#[0, 0, 0, 0, 0, 0xffff, 0x7f00, 1], rfl⟩
      port := 8545 } } := by
    subst c env
    rfl
  rw [hc]
  constructor
  · exact validate_eq_ok_iff.2 (by decide +kernel)
  · intro h
    obtain ⟨-, h, -⟩ := wanted_pairwise.1 h
    exact h rfl rfl (by decide) ⟨.localhost, by decide +kernel, by decide +kernel⟩

end TokenGate.Config
