import TokenGate.Proofs.Node.Lifecycle
/-!
Registrations that are refused. The services before the one that is refused stay, so that the others
can be given again only if there are none before it.
-/
namespace TokenGate.Node

variable {n m : Node} {c : Config} {secret : Secret} {acts : List Act}
  {apis before rest : List Rpc.Api} {a : Rpc.Api} {e : Error}

theorem Adding.eq_ok_iff {table : List Rpc.Api} (h : Adding table apis result table') :
    result = .ok () ↔ ((table ++ apis).map Rpc.Api.name).Nodup := by
  cases h with
  | all hd => exact iff_of_true rfl hd
  | refused he ht =>
    refine iff_of_false nofun ?_
    rw [he]
    exact not_nodup_of_taken ht _

theorem register_eq_ok_iff (hp : n.phase = .unstarted) (apis : List Rpc.Api) :
    (n.register apis).1 = .ok () ↔ ((n.registry.apis ++ apis).map Rpc.Api.name).Nodup := by
  simp only [register, hp, mapError_eq_ok]
  exact (registerAll_adding apis n.registry).eq_ok_iff

/-- A registration that is refused because of a namespace has left the services before it. -/
theorem register_eq_error (hp : n.phase = .unstarted) (h : n.register apis = (.error e, m)) :
    ∃ before a rest, apis = before ++ a :: rest ∧
      a.name ∈ (n.registry.apis ++ before).map Rpc.Api.name ∧
      e = .duplicateNamespace a.name ∧
      m = { n with registry := m.registry } ∧ m.registry.apis = n.registry.apis ++ before := by
  simp only [register, hp] at h
  have ha := registerAll_adding apis n.registry
  generalize registerAll apis n.registry = r at h ha
  obtain ⟨result, registry⟩ := r
  cases result with
  | ok _ => cases h
  | error name =>
    cases h
    generalize registry.apis = table at ha
    cases ha with
    | refused he hn =>
      refine ⟨_, _, _, he, hn, rfl, ?_, rfl⟩
      rw [hp]

theorem registry_ext {r r' : Rpc.Registry} (h : r.apis = r'.apis) : r = r' := by
  cases r
  cases r'
  cases h
  rfl

/-- As long as a node has not been started, a registration that is refused leaves it as it was
exactly if the first service was the one that was refused; and exactly then the others, of which no
two share a namespace and none has a namespace that was taken before, can be given again. -/
theorem refused_unchanged_iff (h : Node.new c secret = .ok n) (hs : ∀ i, ¬ n.StartsAt acts i)
    (hr : (n.after acts).register apis = (.error e, m)) :
    ∃ before a rest, apis = before ++ a :: rest ∧
      a.name ∈ ((n.after acts).registry.apis ++ before).map Rpc.Api.name ∧
      e = .duplicateNamespace a.name ∧
      m = { n.after acts with registry := m.registry } ∧
      m.registry.apis = (n.after acts).registry.apis ++ before ∧
      (m = n.after acts ↔ before = []) ∧
      ((((n.after acts).registry.apis ++ (before ++ rest)).map Rpc.Api.name).Nodup →
        ((m.register (before ++ rest)).1 = .ok () ↔ before = [])) := by
  have hp : (n.after acts).phase = .unstarted := by
    by_contra hp
    obtain ⟨i, hi⟩ := (lived h acts).ne_unstarted_iff.1 hp
    exact hs i hi
  obtain ⟨before, a, rest, he, ht, hn, hm, htable⟩ := register_eq_error hp hr
  refine ⟨before, a, rest, he, ht, hn, hm, htable, ?unchanged, ?again⟩
  case unchanged =>
    constructor
    · intro heq
      rw [heq] at htable
      exact List.append_right_eq_self.1 htable.symm
    · rintro rfl
      rw [List.append_nil] at htable
      rw [hm, registry_ext htable]
  case again =>
    intro hd
    have hmp : m.phase = .unstarted := by
      rw [hm]
      exact hp
    rw [register_eq_ok_iff hmp, htable]
    constructor
    · intro hagain
      cases before with
      | nil => rfl
      | cons b before =>
        -- the first of the services that have stayed is in the way
        have hb : b.name ∈
            ((n.after acts).registry.apis ++ b :: before ++ []).map Rpc.Api.name := by simp
        exact absurd hagain (not_nodup_of_taken hb _)
    · rintro rfl
      rwa [List.append_nil]

/-- The built-in service is registered again, behind another one. -/
theorem refused_unchanged_iff_web3 :
    let api (name : String) : Rpc.Api := ⟨name, "1.0", web3.service, false⟩
    let node : Node := {
      config := {}
      secret := ⟨List.replicate 32 7, by decide⟩
      registry := ⟨[web3], by simp⟩ }
    let m := (node.register [api "eth", api "web3", api "net"]).2
    ∃ before a rest, [api "eth", api "web3", api "net"] = before ++ a :: rest ∧
      a.name ∈ ((node.after []).registry.apis ++ before).map Rpc.Api.name ∧
      Error.duplicateNamespace "web3" = .duplicateNamespace a.name ∧
      m = { node.after [] with registry := m.registry } ∧
      m.registry.apis = (node.after []).registry.apis ++ before ∧
      (m = node.after [] ↔ before = []) ∧
      ((((node.after []).registry.apis ++ (before ++ rest)).map Rpc.Api.name).Nodup →
        ((m.register (before ++ rest)).1 = .ok () ↔ before = [])) := by
  intro api node m
  have hn : Node.new {} node.secret = .ok node := rfl
  have hs : ∀ i, ¬ node.StartsAt [] i := by
    rintro i ⟨net, hi, -⟩
    cases hi
  exact refused_unchanged_iff hn hs rfl

/-- What has been registered before a service that is refused stays, and is in the way when the rest
is given again. -/
theorem refused_stays :
    let api (name : String) : Rpc.Api := ⟨name, "1.0", web3.service, false⟩
    let node : Node := {
      config := {}
      secret := ⟨List.replicate 32 7, by decide⟩
      registry := ⟨[web3], by simp⟩ }
    let m := (node.register [api "eth", api "web3", api "net"]).2
    Node.new {} node.secret = .ok node ∧
      (node.register [api "eth", api "web3", api "net"]).1 =
        .error (.duplicateNamespace "web3") ∧
      m.registry.apis ≠ node.registry.apis ∧
      ((node.registry.apis ++ [api "eth", api "net"]).map Rpc.Api.name).Nodup ∧
      (m.register [api "eth", api "net"]).1 = .error (.duplicateNamespace "eth") := by
  intro api node m
  refine ⟨rfl, rfl, ?_, by decide, rfl⟩
  intro he
  exact absurd (congrArg List.length he) (by decide)

end TokenGate.Node
