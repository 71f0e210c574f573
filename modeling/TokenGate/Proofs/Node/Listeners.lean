import TokenGate.Node.Basic
import TokenGate.Proofs.Os.Network
/-!
The listeners of a node are opened all or not at all: a start succeeds exactly if the machine opens
each of them, and one that fails leaves no listener behind.
-/
namespace TokenGate

open Net (SocketAddr)
open Os (Network)

/-- The addresses that the listeners of a configuration ask for, in the order in which they are
opened. -/
def Config.wanted (c : Config) : List SocketAddr :=
  (if c.http.enabled then [c.httpAddr] else []) ++
    ((if c.websocket.enabled then [c.websocketAddr] else []) ++ [c.authAddr])

namespace Node

/-- What can come of opening listeners and going on with their addresses: all are open and it has
succeeded, or there is an error, of the first listener that cannot be opened or of what follows, and
then those that were opened are closed. -/
inductive Opening (net : Network) (addrs : List SocketAddr) (done : List SocketAddr → α → Prop)
    (failed : List SocketAddr → Error → Prop) : Except Error α × Network → Prop
  | opened (h : net.Opens addrs bounds net') (ha : done bounds a) :
      Opening net addrs done failed (.ok a, net')
  | refused (he : addrs = before ++ addr :: rest) (h : net.Opens before bounds net₁)
      (hb : net₁.bind addr = .error cause) :
      Opening net addrs done failed (.error (.bind addr cause), net)
  | closed (h : net.Opens addrs bounds net₁) (he : failed bounds e) :
      Opening net addrs done failed (.error e, net)

section
variable {net : Network} {addr : SocketAddr} {addrs : List SocketAddr}
  {done : List SocketAddr → α → Prop} {failed : List SocketAddr → Error → Prop}

theorem opening_withListener {next : SocketAddr → Network → Except Error α × Network}
    (h : ∀ bound net₁, net.bind addr = .ok (bound, net₁) →
      Opening net₁ addrs (fun bounds => done (bound :: bounds))
        (fun bounds => failed (bound :: bounds)) (next bound net₁)) :
    Opening net (addr :: addrs) done failed (withListener net addr next) := by
  unfold withListener
  cases hb : net.bind addr with
  | error cause =>
    have he : addr :: addrs = [] ++ addr :: addrs := rfl
    exact .refused he .nil hb
  | ok r =>
    obtain ⟨bound, net₁⟩ := r
    have ho := h bound net₁ hb
    simp only
    generalize next bound net₁ = result at ho ⊢
    cases ho with
    | opened ho ha => exact .opened (.cons hb ho) ha
    | refused he ho hr =>
      simp only [Network.release_bind hb]
      exact .refused (congrArg (addr :: ·) he) (.cons hb ho) hr
    | closed ho he =>
      simp only [Network.release_bind hb]
      exact .closed (.cons hb ho) he

theorem opening_withEnabled (enabled : Bool)
    {next : Option SocketAddr → Network → Except Error α × Network}
    (h : ∀ bound net₁, bound.isSome = enabled →
      Opening net₁ addrs (fun bounds => done (bound.toList ++ bounds))
        (fun bounds => failed (bound.toList ++ bounds)) (next bound net₁)) :
    Opening net ((if enabled then [addr] else []) ++ addrs) done failed
      (withEnabled net enabled addr next) := by
  cases enabled with
  | false => exact h none net rfl
  | true => exact opening_withListener fun bound net₁ _ => h (some bound) net₁ rfl

end

/-- The addresses of the listeners that are enabled, none of which is that of the authenticated
one. -/
structure Addresses.Suits (a : Addresses) (c : Config) : Prop where
  http : a.http.isSome = c.http.enabled
  websocket : a.websocket.isSome = c.websocket.enabled
  distinct : a.http ≠ some a.auth ∧ a.websocket ≠ some a.auth

theorem checkDistinct_eq_ok {a : Addresses} :
    checkDistinct a = .ok () ↔ a.http ≠ some a.auth ∧ a.websocket ≠ some a.auth := by
  unfold checkDistinct
  split
  · next h => simp [h]
  · next h =>
    split
    · next h' => simp [h']
    · next h' => simp [h, h']

theorem opening_openListeners (c : Config) (net : Network) :
    Opening net c.wanted (fun bounds a => a.all = bounds ∧ a.Suits c)
      (fun bounds e => ∃ a : Addresses, a.all = bounds ∧ checkDistinct a = .error e)
      (openListeners c net) := by
  unfold openListeners Config.wanted
  refine opening_withEnabled _ fun http net₁ hh => ?_
  refine opening_withEnabled _ fun websocket net₂ hw => ?_
  refine opening_withListener fun auth net₃ _ => ?_
  simp only
  cases hd : checkDistinct ⟨http, websocket, auth⟩ with
  | error e => exact .closed .nil ⟨_, by simp [Addresses.all], hd⟩
  | ok _ =>
    refine .opened .nil ⟨by simp [Addresses.all], hh, hw, ?_⟩
    exact checkDistinct_eq_ok.1 hd

variable {n n' : Node} {net net' : Network}

/-- A start that succeeds opens every listener, and changes nothing else about the node. -/
theorem tryStart_eq_ok (h : n.tryStart net = (.ok (), n', net')) :
    n.phase = .unstarted ∧ ∃ a : Addresses, n' = { n with phase := .running a } ∧
      a.Suits n.config ∧ net.Opens n.config.wanted a.all net' := by
  unfold tryStart at h
  split at h
  · next hp =>
    have ho := opening_openListeners n.config net
    generalize openListeners n.config net = result at h ho
    cases ho with
    | opened ho ha =>
      cases h
      obtain ⟨rfl, hs⟩ := ha
      exact ⟨hp, _, rfl, hs, ho⟩
    | refused => cases h
    | closed => cases h
  · cases h

theorem tryStart_eq_error (h : n.tryStart net = (.error e, n', net')) : n' = n ∧ net' = net := by
  unfold tryStart at h
  split at h
  · have ho := opening_openListeners n.config net
    generalize openListeners n.config net = result at h ho
    cases ho with
    | opened => cases h
    | refused =>
      cases h
      exact ⟨rfl, rfl⟩
    | closed =>
      cases h
      exact ⟨rfl, rfl⟩
  · cases h
    exact ⟨rfl, rfl⟩

theorem checkDistinct_of_nodup {a : Addresses} (h : a.all.Nodup) : checkDistinct a = .ok () := by
  rw [Addresses.all, List.nodup_append] at h
  obtain ⟨-, -, h⟩ := h
  apply checkDistinct_eq_ok.2
  constructor
  · intro he
    exact h a.auth (by simp [he]) a.auth List.mem_cons_self rfl
  · intro he
    exact h a.auth (by simp [he]) a.auth List.mem_cons_self rfl

/-- Where no address is given out twice, a start succeeds if there has been none and every listener
can be opened. -/
theorem tryStart_succeeds_iff (hx : net.Exclusive) :
    (n.tryStart net).1 = .ok () ↔
      n.phase = .unstarted ∧ ∃ bounds opened, net.Opens n.config.wanted bounds opened := by
  constructor
  · intro h
    obtain ⟨hp, a, -, -, ho⟩ := tryStart_eq_ok (Prod.ext h rfl)
    exact ⟨hp, _, _, ho⟩
  · rintro ⟨hp, bounds, opened, hall⟩
    have ho := opening_openListeners n.config net
    simp only [tryStart, hp]
    generalize openListeners n.config net = result at ho ⊢
    cases ho with
    | opened => rfl
    | refused he ho hr => exact (ho.not_opens hr (he ▸ hall)).elim
    | closed ho he =>
      obtain ⟨a, rfl, hd⟩ := he
      rw [checkDistinct_of_nodup (ho.nodup hx).1] at hd
      cases hd

/-- A start fails at the first listener that cannot be opened. -/
theorem tryStart_refused (hp : n.phase = .unstarted) (he : n.config.wanted = before ++ addr :: rest)
    (ho : net.Opens before bounds net₁) (hb : net₁.bind addr = .error cause) :
    n.tryStart net = (.error (.bind addr cause), n, net) := by
  have hopening := opening_openListeners n.config net
  simp only [tryStart, hp]
  generalize openListeners n.config net = result at hopening ⊢
  cases hopening with
  | opened h => exact (ho.not_opens hb (he ▸ h)).elim
  | refused he' ho' hb' =>
    obtain ⟨rfl, rfl⟩ := ho.refused_unique hb ho' hb' (he.symm.trans he')
    rfl
  | closed h => exact (ho.not_opens hb (he ▸ h)).elim

theorem tryStart_eq_alreadyStarted :
    (n.tryStart net).1 = .error .alreadyStarted ↔ n.phase ≠ .unstarted := by
  unfold tryStart
  split
  · next hp =>
    have ho := opening_openListeners n.config net
    generalize openListeners n.config net = result at ho ⊢
    simp only [hp, ne_eq, not_true, iff_false]
    cases ho with
    | opened => exact nofun
    | refused => exact nofun
    | closed _ he =>
      obtain ⟨a, -, hd⟩ := he
      unfold checkDistinct at hd
      grind
  · next hp => exact iff_of_true rfl hp

theorem tryStart_of_start (h : n.start net = .ok (n', net')) :
    n.tryStart net = (.ok (), n', net') := by
  unfold start at h
  split at h
  · next he =>
    cases h
    exact he
  · cases h

end Node

end TokenGate
