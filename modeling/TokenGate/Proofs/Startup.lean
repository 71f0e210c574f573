import TokenGate.Proofs.Config.Validation
import TokenGate.Proofs.SecretFile
import TokenGate.Startup
/-!
A start of the program that fails: the first stage that fails is the one that is reported, and those
after it have not begun.
-/
namespace TokenGate

open Net (IpAddr SocketAddr)
open Os (FileSystem Network)

namespace Config

/-- A variable that is set to something that can be read replaces a value. -/
structure Replaces (raw : Option String) (read : String → Option α) (old new : α) : Prop where
  set : ∀ text value, raw = some text → read text = some value → new = value
  unset : (∀ text, raw = some text → read text = none) → new = old

theorem replaces (raw : Option String) (read : String → Option α) (old : α) :
    Replaces raw read old ((raw.bind read).getD old) := by
  constructor
  · rintro text value rfl hr
    rw [Option.bind_some, hr, Option.getD_some]
  · intro h
    cases raw with
    | none => rfl
    | some text => rw [Option.bind_some, h text rfl, Option.getD_none]

/-- A configuration that differs from the one by default in what the environment sets. -/
structure Overlays (env : Environment) (c : Config) : Prop where
  http : ∃ port, c.http = { port } ∧ Replaces (env "QC_HTTP_PORT") portOf? 8545 port
  websocket : ∃ port, c.websocket = { port } ∧ Replaces (env "QC_WS_PORT") portOf? 8546 port
  authHost : Replaces (env "QC_AUTH_ADDR") IpAddr.parse? .localhost c.auth.host
  authPort : Replaces (env "QC_AUTH_PORT") portOf? 8551 c.auth.port
  secretPath : Replaces (env "QC_JWT_SECRET") some "jwtsecret" c.auth.secretPath
  tolerance : Replaces (env "QC_CLOCK_SKEW_SECS") secondsOf? (.ofSeconds 5) c.auth.tolerance

theorem overlays_overlayEnv (env : Environment) : Overlays env (({} : Config).overlayEnv env) where
  http := ⟨_, rfl, replaces _ _ _⟩
  websocket := ⟨_, rfl, replaces _ _ _⟩
  authHost := replaces _ _ _
  authPort := replaces _ _ _
  secretPath := by
    have h := replaces (env "QC_JWT_SECRET") some "jwtsecret"
    rw [Option.bind_fun_some] at h
    exact h
  tolerance := replaces _ _ _

end Config

theorem Node.new_of_validate {c : Config} (h : c.validate = .ok ()) (s : Secret) :
    ∃ n, Node.new c s = .ok n ∧ n.config = c ∧ n.secret = s ∧ n.phase = .unstarted := by
  refine ⟨⟨c, s, ⟨[web3], by simp⟩, .unstarted, {}, [], 0⟩, ?_, rfl, rfl, rfl⟩
  rw [Node.new, h]
  rfl

namespace Startup

variable {c : Config} {fresh s : Secret} {net opened : Network} {fs fs' : FileSystem} {n : Node}

theorem openNode_of_error (hn : Node.new c s = .ok n)
    (h : n.tryStart net = (.error e, n', opened)) :
    openNode c s net = (.error (.listeners e), opened) := by
  simp only [openNode, hn, h]

theorem openNode_of_ok (hn : Node.new c s = .ok n) (h : n.tryStart net = (.ok (), n', opened)) :
    openNode c s net = (.ok n', opened) := by
  simp only [openNode, hn, h]

section
variable {env : Config.Environment}

theorem boot_of_invalid (hv : (({} : Config).overlayEnv env).validate = .error e) :
    boot env fresh net fs = (.error (.configuration e), net, fs) := by
  simp only [boot, hv]

theorem boot_of_no_secret (hv : (({} : Config).overlayEnv env).validate = .ok ())
    (hs : Secret.loadOrGenerate fresh (({} : Config).overlayEnv env).auth.secretPath fs =
      (.error e, fs')) :
    boot env fresh net fs =
      (.error (.secret (({} : Config).overlayEnv env).auth.secretPath e), net, fs') := by
  simp only [boot, hv, hs]

theorem boot_of_secret (hv : (({} : Config).overlayEnv env).validate = .ok ())
    (hs : Secret.loadOrGenerate fresh (({} : Config).overlayEnv env).auth.secretPath fs =
      (.ok s, fs'))
    (ho : openNode (({} : Config).overlayEnv env) s net = (result, opened)) :
    boot env fresh net fs = (result, opened, fs') := by
  simp only [boot, hv, hs, ho]

end

theorem openNode_succeeds (hv : c.validate = .ok ()) (hx : net.Exclusive)
    (ho : ∃ bounds opened, net.Opens c.wanted bounds opened) :
    ∃ n opened, openNode c s net = (.ok n, opened) ∧ n.secret = s := by
  obtain ⟨n, hn, hc, hs, hp⟩ := Node.new_of_validate hv s
  rw [← hc] at ho
  have hok := (Node.tryStart_succeeds_iff hx).2 ⟨hp, ho⟩
  have ht : n.tryStart net = (.ok (), (n.tryStart net).2.1, (n.tryStart net).2.2) :=
    Prod.ext hok rfl
  obtain ⟨-, a, he, -⟩ := Node.tryStart_eq_ok ht
  refine ⟨_, _, openNode_of_ok hn ht, ?_⟩
  rw [he]
  exact hs

/-- An address that is in use is the one that is reported, if those before it can be opened. -/
theorem openNode_refused {refusal : SocketAddr → Option Os.Error} (hv : c.validate = .ok ())
    (hg : net.grant = Os.allot refusal) (hr : refusal addr = none)
    (he : c.wanted = before ++ addr :: rest) (ho : net.Opens before bounds opened)
    (hh : net.Holds addr) :
    openNode c s net = (.error (.listeners (.bind addr .addressInUse)), net) := by
  obtain ⟨n, hn, rfl, -, hp⟩ := Node.new_of_validate hv s
  exact openNode_of_error hn (Node.tryStart_refused hp he ho (ho.bind_of_holds hg hr hh))

/-- Of the listeners that are opened by default, those before the last with ports of their own do
not get in each other's way. -/
theorem opens_before {refusal : SocketAddr → Option Os.Error} {env : Config.Environment}
    (hv : (({} : Config).overlayEnv env).validate = .ok ()) (hg : net.grant = Os.allot refusal)
    (he : (({} : Config).overlayEnv env).wanted = before ++ addr :: rest)
    (ha : ∀ a ∈ before, refusal a = none ∧ a.port ≠ 0 ∧ ¬ net.Holds a) :
    ∃ bounds opened, net.Opens before bounds opened := by
  apply Network.opens_of_free hg
  · intro a hmem
    obtain ⟨hr, hp, hh⟩ := ha a hmem
    exact ⟨hr, hp, fun ht => hh ⟨hp, ht⟩⟩
  · obtain ⟨hne, -⟩ := Config.wanted_pairwise.1 (Config.validate_eq_ok_iff.1 hv).1
    replace hne := hne rfl rfl
    generalize hc : ({} : Config).overlayEnv env = c at he hne
    have hw : c.wanted = [c.httpAddr, c.websocketAddr, c.authAddr] := by
      rw [← hc]
      rfl
    rw [hw] at he
    rcases before with _ | ⟨a, _ | ⟨b, before⟩⟩
    · exact .nil
    · exact List.pairwise_singleton _ _
    · simp only [List.cons_append, List.cons.injEq] at he
      obtain ⟨rfl, rfl, he⟩ := he
      have hnil : before = [] := by
        cases before with
        | nil => rfl
        | cons x before => simp at he
      subst hnil
      apply List.pairwise_pair.2
      intro hports
      have hip : c.httpAddr.ip = c.websocketAddr.ip := by
        subst hc
        rfl
      exact hne (Config.collides_iff.2 ⟨hports, (ha _ List.mem_cons_self).2.1, .inl hip⟩)

/-- A node that cannot be opened leaves the network as it is. -/
theorem openNode_eq_error (h : openNode c s net = (.error e, opened)) : opened = net := by
  rw [openNode] at h
  cases hn : Node.new c s with
  | error cause =>
    rw [hn] at h
    cases h
    rfl
  | ok n =>
    rcases ht : n.tryStart net with ⟨_ | _, n', net'⟩
    · simp only [hn, ht] at h
      cases h
      exact (Node.tryStart_eq_error ht).2
    · simp only [hn, ht] at h
      cases h

section
variable {env : Config.Environment}

theorem boot_eq_error (h : boot env fresh net fs = (.error e, opened, fs')) : opened = net := by
  unfold boot at h
  dsimp only at h
  split at h
  · cases h
    rfl
  · split at h
    · cases h
      rfl
    · next s fs₁ hs =>
      rcases ho : openNode (({} : Config).overlayEnv env) s net with ⟨result, net'⟩
      rw [ho] at h
      cases h
      exact openNode_eq_error ho

/-- A start that fails is one of which only the files are left. -/
theorem run_eq_error : run env fresh net fs = (.error e, fs') ↔
    boot env fresh net fs = (.error e, net, fs') := by
  rw [run]
  rcases hb : boot env fresh net fs with ⟨e' | n, opened, fs₁⟩
  · obtain rfl := boot_eq_error hb
    simp only [Except.map, Prod.mk.injEq, Except.error.injEq, true_and]
  · simp only [Except.map, Prod.mk.injEq, reduceCtorEq, false_and]

theorem run_eq_ok : run env fresh net fs = (.ok (n, opened), fs') ↔
    boot env fresh net fs = (.ok n, opened, fs') := by
  rw [run]
  rcases boot env fresh net fs with ⟨e' | n', opened', fs₁⟩
  · simp only [Except.map, Prod.mk.injEq, reduceCtorEq, false_and]
  · simp only [Except.map, Prod.mk.injEq, Except.ok.injEq, and_assoc]

end

/-- A start fails with a report. It leaves the network as it is, and files behind. -/
def Fails (env : Config.Environment) (fresh : Secret) (net : Network) (fs : FileSystem)
    (report : Report) (fs' : FileSystem) : Prop :=
  ∃ failure, boot env fresh net fs = (.error failure, net, fs') ∧ failure.report = report

/-- An address is the first one in use of those that a start opens: it could be opened but for
this, and those before it can be. -/
structure Blocks (net : Network) (refusal : SocketAddr → Option Os.Error)
    (before : List SocketAddr) (addr : SocketAddr) (rest : List SocketAddr) : Prop where
  grant : net.grant = Os.allot refusal
  allowed : ∀ a ∈ before ++ addr :: rest, refusal a = none
  held : net.Holds addr
  free : ∀ a ∈ before, ¬ net.Holds a
  opens : (∀ a ∈ before, a.port ≠ 0) ∨ ∃ bounds opened, net.Opens before bounds opened

/-- What is reported of an address in use. -/
def inUseReport (addr : SocketAddr) : Report :=
  let cause := "Address already in use (os error 98)"
  ⟨"failed to start gateway", [s!"server bind error on {addr.text}: {cause}", cause]⟩

/-- A start that has come by a secret: it is in the file and in the node. The address in use is the
one that is reported, and a start that finds the addresses free uses the secret again. -/
structure Secured (c : Config) (env : Config.Environment) (fresh : Secret) (net : Network)
    (fs : FileSystem) (s : Secret) (fs' : FileSystem) : Prop where
  stored : fs'.existsAt ⟨c.auth.secretPath⟩
  loads : Secret.load c.auth.secretPath fs' = .ok s
  node : ∃ n, Node.new c s = .ok n ∧ n.secret = s
  blocked : ∀ refusal before addr rest,
    [c.httpAddr, c.websocketAddr, c.authAddr] = before ++ addr :: rest →
    Blocks net refusal before addr rest →
    Fails env fresh net fs (inUseReport addr) fs'
  again : ∀ fresh' free, free.Exclusive →
    (∃ bounds opened, free.Opens [c.httpAddr, c.websocketAddr, c.authAddr] bounds opened) →
    ∃ n opened, boot env fresh' free fs' = (.ok n, opened, fs') ∧ n.secret = s

/-- The stages of a start. An invalid configuration leaves the files as they are, and a secret that
cannot be had leaves those that there were. -/
structure Stages (c : Config) (env : Config.Environment) (fresh : Secret) (net : Network)
    (fs : FileSystem) : Prop where
  invalid : ∀ e, c.validate = .error e →
    Fails env fresh net fs ⟨"invalid gateway configuration", [e.message]⟩ fs
  noSecret : c.validate = .ok () → ∀ e fs',
    Secret.loadOrGenerate fresh c.auth.secretPath fs = (.error e, fs') →
    Fails env fresh net fs
        ⟨"failed to load JWT secret from " ++ c.auth.secretPath, e.message :: secretSource e⟩ fs' ∧
      ∀ loc f, fs'.entries loc = some (.file f) ↔ fs.entries loc = some (.file f)
  secured : c.validate = .ok () → ∀ s fs',
    Secret.loadOrGenerate fresh c.auth.secretPath fs = (.ok s, fs') →
    Secured c env fresh net fs s fs'

theorem secured {env : Config.Environment}
    (hv : (({} : Config).overlayEnv env).validate = .ok ())
    (hs : Secret.loadOrGenerate fresh (({} : Config).overlayEnv env).auth.secretPath fs =
      (.ok s, fs')) :
    Secured (({} : Config).overlayEnv env) env fresh net fs s fs' := by
  obtain ⟨hexists, hload⟩ := Secret.load_of_loadOrGenerate hs
  obtain ⟨n, hn, -, hns, -⟩ := Node.new_of_validate hv s
  refine ⟨hexists, hload, ⟨n, hn, hns⟩, ?_, ?_⟩
  · intro refusal before addr rest he h
    have hallowed := h.allowed
    rw [List.forall_mem_append, List.forall_mem_cons] at hallowed
    obtain ⟨hbefore, haddr, -⟩ := hallowed
    have hopens : ∃ bounds opened, net.Opens before bounds opened := by
      rcases h.opens with hp | ho
      · exact opens_before hv h.grant he fun a ha => ⟨hbefore a ha, hp a ha, h.free a ha⟩
      · exact ho
    obtain ⟨bounds, opened, ho⟩ := hopens
    have hrefused := @openNode_refused _ s net _ _ _ _ _ _ hv h.grant haddr he ho h.held
    exact ⟨.listeners (.bind addr .addressInUse), boot_of_secret hv hs hrefused, rfl⟩
  · intro fresh' free hx hfree
    have hagain : Secret.loadOrGenerate fresh' (({} : Config).overlayEnv env).auth.secretPath fs' =
        (.ok s, fs') := by
      rw [Secret.loadOrGenerate, if_pos hexists, hload]
    obtain ⟨n, opened, hnode, hsecret⟩ := @openNode_succeeds _ s free hv hx hfree
    exact ⟨n, opened, boot_of_secret hv hagain hnode, hsecret⟩

/-- The first stage of a start that fails ends it, and those after it have not begun. -/
theorem boot_stages (env : Config.Environment) (fresh : Secret) (net : Network)
    (fs : FileSystem) :
    Config.Overlays env (({} : Config).overlayEnv env) ∧
      Stages (({} : Config).overlayEnv env) env fresh net fs := by
  refine ⟨Config.overlays_overlayEnv env, ?_, ?_, ?_⟩
  · intro e he
    exact ⟨.configuration e, boot_of_invalid he, rfl⟩
  · intro hv e fs' he
    exact ⟨⟨.secret _ e, boot_of_no_secret hv he, rfl⟩, Secret.files_of_error he⟩
  · intro hv s fs' hs
    exact secured hv hs

/-- The port of the second listener is in use at the first start, and free at the next. -/
theorem boot_stages_taken :
    let fresh : Secret := ⟨List.replicate 32 7, by decide⟩
    let other : Secret := ⟨List.replicate 32 9, by decide⟩
    let held : Network := { inUse := [⟨.localhost, 8546⟩] }
    let cause := "Address already in use (os error 98)"
    ∃ s failure fs', Secret.loadOrGenerate fresh "jwtsecret" {} = (.ok s, fs') ∧
      boot (fun _ => none) fresh held {} = (.error failure, held, fs') ∧
      failure.report = ⟨"failed to start gateway",
        [s!"server bind error on 127.0.0.1:8546: {cause}", cause]⟩ ∧
      ∃ n opened, boot (fun _ => none) other {} fs' = (.ok n, opened, fs') ∧ n.secret = s := by
  intro fresh other held cause
  have hvalid : (({} : Config).overlayEnv fun _ => none).validate.isOk = true := by
    decide +kernel
  have hmade : (Secret.loadOrGenerate fresh "jwtsecret" {}).1.isOk = true := by decide +kernel
  obtain ⟨_, hv⟩ := exists_eq_ok hvalid
  obtain ⟨s, hs⟩ := exists_eq_ok hmade
  have hcall : Secret.loadOrGenerate fresh "jwtsecret" {} = (.ok s, _) := Prod.ext hs rfl
  obtain ⟨-, hstages⟩ := boot_stages (fun _ => none) fresh held {}
  have hsecured := hstages.secured hv s _ hcall
  have hblocks : Blocks held (fun _ => none) [⟨.localhost, 8545⟩] ⟨.localhost, 8546⟩
      [⟨.localhost, 8551⟩] :=
    ⟨rfl, fun _ _ => rfl, by decide, by decide, .inl (by decide)⟩
  obtain ⟨failure, hboot, hreport⟩ := hsecured.blocked _ _ _ _ rfl hblocks
  have hfree : ∃ bounds opened, Network.Opens {}
      [⟨.localhost, 8545⟩, ⟨.localhost, 8546⟩, ⟨.localhost, 8551⟩] bounds opened :=
    @Network.opens_of_free {} _ (fun _ => none) rfl (by decide) (by decide)
  have hexclusive : Network.Exclusive {} := @Network.exclusive_allot {} (fun _ => none) rfl
  exact ⟨s, failure, _, hcall, hboot, hreport, hsecured.again other {} hexclusive hfree⟩

end Startup

end TokenGate
