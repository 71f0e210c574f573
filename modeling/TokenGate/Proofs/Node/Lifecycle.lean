import Mathlib.Data.List.Induction
import TokenGate.Node.Serving
import TokenGate.Proofs.Http.Authority
import TokenGate.Proofs.Node.Listeners
/-!
The life of a node. Services are added until its listeners are opened, which succeeds at most once;
it runs from then on until it is closed, and is never started again.
-/
namespace TokenGate.Node

open Net (SocketAddr)
open Os (Network)

/-- The questions that a node answers about where it can be reached. -/
inductive Query where
  | http
  | websocket
  | httpAuth
  | websocketAuth

def answer (n : Node) : Query → Except Error String
  | .http => n.httpEndpoint
  | .websocket => n.websocketEndpoint
  | .httpAuth => n.httpAuthEndpoint
  | .websocketAuth => n.websocketAuthEndpoint

/-- What the owner of a node does. Whatever else goes on in the machine, each start finds another
network. -/
inductive Act where
  | register (apis : List Rpc.Api)
  | start (net : Network)
  | close (net : Network)
  | query (q : Query)

def perform (n : Node) : Act → Node
  | .register apis => (n.register apis).2
  | .start net => (n.tryStart net).2.1
  | .close net => (n.stop net).1
  | .query _ => n

def after (n : Node) (acts : List Act) : Node := acts.foldl perform n

/-- The act of a given number is a start that succeeds. -/
def StartsAt (n : Node) (acts : List Act) (i : Nat) : Prop :=
  ∃ net, acts[i]? = some (.start net) ∧ ((n.after (acts.take i)).tryStart net).1 = .ok ()

/-- The services that a table takes on from a list: those before the first whose namespace is
taken. -/
structure Adds (table apis added : List Rpc.Api) : Prop where
  first : added <+: apis
  distinct : ((table ++ added).map Rpc.Api.name).Nodup
  most : ∀ more, more <+: apis → ((table ++ more).map Rpc.Api.name).Nodup → more <+: added

/-- The table of services that acts lead to, as long as the node has not been started. -/
inductive Tabled : List Act → List Rpc.Api → Prop
  | builtin : Tabled [] [web3]
  | register (h : Tabled acts table) (ha : Adds table apis added) :
      Tabled (acts ++ [.register apis]) (table ++ added)
  | other (h : Tabled acts table) (hx : ∀ apis, x ≠ .register apis) : Tabled (acts ++ [x]) table

/-- What can come of adding services to a table: all are added, or those before the first whose
namespace is taken, which is refused. -/
inductive Adding (table apis : List Rpc.Api) : Except String Unit → List Rpc.Api → Prop
  | all (hd : ((table ++ apis).map Rpc.Api.name).Nodup) :
      Adding table apis (.ok ()) (table ++ apis)
  | refused (he : apis = before ++ a :: rest)
      (ht : a.name ∈ (table ++ before).map Rpc.Api.name) :
      Adding table apis (.error a.name) (table ++ before)

theorem registerAll_adding (apis : List Rpc.Api) (r : Rpc.Registry) :
    Adding r.apis apis (registerAll apis r).1 (registerAll apis r).2.apis := by
  induction apis generalizing r with
  | nil =>
    have h : Adding r.apis [] (.ok ()) (r.apis ++ []) := by
      apply Adding.all
      rw [List.append_nil]
      exact r.distinct
    rwa [List.append_nil] at h
  | cons a rest ih =>
    unfold registerAll Rpc.Registry.register
    by_cases hn : a.name ∈ r.apis.map Rpc.Api.name
    · have he : a :: rest = [] ++ a :: rest := rfl
      have h : Adding r.apis (a :: rest) (.error a.name) (r.apis ++ []) := by
        apply Adding.refused he
        rwa [List.append_nil]
      rw [dif_pos hn]
      rwa [List.append_nil] at h
    · rw [dif_neg hn]
      simp only
      generalize_proofs hnew
      have h := ih ⟨r.apis ++ [a], hnew⟩
      generalize (registerAll rest _).1 = result, (registerAll rest _).2.apis = table at h ⊢
      cases h with
      | all hd =>
        rw [← List.append_cons] at hd ⊢
        exact .all hd
      | refused he ht =>
        rw [← List.append_cons] at ht ⊢
        exact .refused (congrArg (a :: ·) he) ht

theorem not_nodup_of_taken {table before : List Rpc.Api} {a : Rpc.Api}
    (ht : a.name ∈ (table ++ before).map Rpc.Api.name) (rest : List Rpc.Api) :
    ¬ ((table ++ (before ++ a :: rest)).map Rpc.Api.name).Nodup := by
  rw [← List.append_assoc, List.map_append, List.nodup_append]
  rintro ⟨-, -, hd⟩
  exact hd _ ht _ List.mem_cons_self rfl

theorem Adding.adds (h : Adding table apis result table')
    (hd : (table'.map Rpc.Api.name).Nodup) :
    ∃ added, Adds table apis added ∧ table' = table ++ added := by
  cases h with
  | all => exact ⟨apis, ⟨List.prefix_rfl, hd, fun _ hm _ => hm⟩, rfl⟩
  | @refused before a rest he ht =>
    have hb : before <+: apis := ⟨a :: rest, he.symm⟩
    refine ⟨before, ⟨hb, hd, ?_⟩, rfl⟩
    intro more hm hmore
    rcases List.prefix_or_prefix_of_prefix hm hb with h | ⟨tail, rfl⟩
    · exact h
    · cases tail with
      | nil => exact ⟨[], by rw [List.append_nil, List.append_nil]⟩
      | cons b tail =>
        rw [he, List.prefix_append_right_inj] at hm
        obtain ⟨rfl, -⟩ := List.cons_prefix_cons.1 hm
        exact absurd hmore (not_nodup_of_taken ht tail)

theorem registerAll_adds (apis : List Rpc.Api) (r : Rpc.Registry) :
    ∃ added, Adds r.apis apis added ∧ (registerAll apis r).2.apis = r.apis ++ added :=
  (registerAll_adding apis r).adds (registerAll apis r).2.distinct

/-- What an act can do: it adds services to a node that has not been started, opens its listeners,
or closes them. -/
inductive Performed (n : Node) (x : Act) : Node → Prop
  | registered (hx : x = .register apis) (hp : n.phase = .unstarted)
      (ha : Adds n.registry.apis apis added) (hr : r.apis = n.registry.apis ++ added) :
      Performed n x { n with registry := r }
  | started (hx : x = .start net) (hp : n.phase = .unstarted)
      (hs : (n.tryStart net).1 = .ok ()) (ha : a.Suits n.config) :
      Performed n x { n with phase := .running a }
  | stopped (hx : x = .close net) (hp : n.phase = .running a) :
      Performed n x { n with phase := .stopped }
  | unchanged (hr : ∀ apis, x = .register apis → n.phase ≠ .unstarted)
      (hs : ∀ net, x = .start net → (n.tryStart net).1 ≠ .ok ())
      (hc : ∀ net, x = .close net → n.isRunning = false) : Performed n x n

theorem isRunning_iff {n : Node} : n.isRunning ↔ ∃ a, n.phase = .running a := by
  unfold isRunning
  cases n.phase with
  | unstarted => simp
  | running a => simp
  | stopped => simp

theorem performed (n : Node) (x : Act) : Performed n x (n.perform x) := by
  cases x with
  | register apis =>
    simp only [perform, register]
    split
    · next hp =>
      obtain ⟨added, ha, hr⟩ := registerAll_adds apis n.registry
      exact .registered rfl hp ha hr
    · next hp => exact .unchanged (fun _ _ => hp) nofun nofun
  | start net =>
    simp only [perform]
    cases he : n.tryStart net with
    | mk result rest =>
      obtain ⟨n', net'⟩ := rest
      cases result with
      | ok _ =>
        obtain ⟨hp, a, rfl, ha, -⟩ := tryStart_eq_ok he
        exact .started rfl hp (by rw [he]) ha
      | error e =>
        obtain ⟨rfl, -⟩ := tryStart_eq_error he
        refine .unchanged nofun ?_ nofun
        intro net hn
        cases hn
        rw [he]
        exact nofun
  | close net =>
    simp only [perform, stop]
    split
    · next hp => exact .stopped rfl hp
    · next hp =>
      refine .unchanged nofun nofun fun _ _ => ?_
      rw [Bool.eq_false_iff, ne_eq, isRunning_iff]
      rintro ⟨a, hr⟩
      exact hp a hr
  | query q => exact .unchanged nofun nofun nofun

/-- What has become of a node since the act that started it: it runs, or it has been closed. -/
inductive Since (acts : List Act) (i : Nat) (n : Node) : Prop
  | running (hp : n.phase = .running a) (ha : a.Suits n.config)
      (hc : ∀ j net, i < j → acts[j]? ≠ some (.close net))
  | stopped (hp : n.phase = .stopped) (hc : ∃ j net, i < j ∧ acts[j]? = some (.close net))

/-- Where a node stands after acts, of which at most one has started it. Its table is the one that
there was then. -/
inductive Lived (n : Node) (acts : List Act) (n' : Node) : Prop
  | unstarted (hp : n'.phase = .unstarted) (hn : ∀ i, ¬ n.StartsAt acts i)
      (ht : Tabled acts n'.registry.apis)
  | started (hs : ∀ j, n.StartsAt acts j ↔ j = i) (ht : Tabled (acts.take i) n'.registry.apis)
      (hp : Since acts i n')

section
variable {n n' : Node} {c : Config} {secret : Secret} {acts : List Act} {x : Act}

@[simp]
theorem after_concat (n : Node) (acts : List Act) (x : Act) :
    n.after (acts ++ [x]) = (n.after acts).perform x := by
  rw [after, List.foldl_append]
  rfl

theorem StartsAt.lt (h : n.StartsAt acts i) : i < acts.length := by
  obtain ⟨net, hi, -⟩ := h
  exact (List.getElem?_eq_some_iff.1 hi).1

theorem startsAt_concat :
    n.StartsAt (acts ++ [x]) i ↔ n.StartsAt acts i ∨ i = acts.length ∧
      ∃ net, x = .start net ∧ ((n.after acts).tryStart net).1 = .ok () := by
  by_cases hlt : i < acts.length
  · have he : (acts ++ [x])[i]? = acts[i]? := List.getElem?_append_left hlt
    have ht : (acts ++ [x]).take i = acts.take i := List.take_append_of_le_length (Nat.le_of_lt hlt)
    simp only [StartsAt, he, ht, Nat.ne_of_lt hlt, false_and, or_false]
  · have hn : ¬ n.StartsAt acts i := fun h => hlt h.lt
    rw [or_iff_right hn]
    constructor
    · rintro ⟨net, he, hs⟩
      have hi := (List.getElem?_eq_some_iff.1 he).1
      rw [List.length_append, List.length_singleton] at hi
      obtain rfl : i = acts.length := by omega
      rw [List.take_left] at hs
      rw [List.getElem?_concat_length] at he
      exact ⟨rfl, net, Option.some.inj he, hs⟩
    · rintro ⟨rfl, net, rfl, hs⟩
      refine ⟨net, List.getElem?_concat_length, ?_⟩
      rw [List.take_left]
      exact hs

theorem config_after (n : Node) (acts : List Act) : (n.after acts).config = n.config := by
  induction acts using List.reverseRecOn with
  | nil => rfl
  | append_singleton acts x ih =>
    have h := (n.after acts).performed x
    rw [after_concat]
    generalize (n.after acts).perform x = n' at h ⊢
    cases h with
    | registered => exact ih
    | started => exact ih
    | stopped => exact ih
    | unchanged => exact ih

theorem startsAt_concat_of_quiet
    (hx : ∀ net, x = .start net → ((n.after acts).tryStart net).1 ≠ .ok ()) :
    n.StartsAt (acts ++ [x]) i ↔ n.StartsAt acts i := by
  rw [startsAt_concat, or_iff_left]
  rintro ⟨-, net, he, hs⟩
  exact hx net he hs

theorem new_config (h : Node.new c secret = .ok n) : n.config = c := by
  obtain ⟨_, _, h⟩ := bind_eq_ok.1 h
  obtain ⟨_, _, h⟩ := bind_eq_ok.1 h
  cases h
  rfl

theorem Lived.of_new (h : Node.new c secret = .ok n) : Lived n [] n := by
  obtain ⟨_, _, h⟩ := bind_eq_ok.1 h
  obtain ⟨r, hr, h⟩ := bind_eq_ok.1 h
  cases hr
  cases h
  refine .unstarted rfl ?_ .builtin
  rintro i ⟨net, hi, -⟩
  cases hi

theorem Since.ne_unstarted (h : Since acts i n) : n.phase ≠ .unstarted := by
  cases h with
  | running hp => rw [hp]; exact nofun
  | stopped hp => rw [hp]; exact nofun

/-- Once a node has been started it can only be closed. -/
theorem Since.perform (h : Since acts i n) (hi : i < acts.length) (hx : Performed n x n') :
    Since (acts ++ [x]) i n' ∧ n'.registry = n.registry := by
  cases hx with
  | registered _ hp => exact (h.ne_unstarted hp).elim
  | started _ hp => exact (h.ne_unstarted hp).elim
  | @stopped net _ hx =>
    subst hx
    exact ⟨.stopped rfl ⟨acts.length, net, hi, List.getElem?_concat_length⟩, rfl⟩
  | unchanged _ _ hclose =>
    refine ⟨?_, rfl⟩
    cases h with
    | running hp ha hc =>
      refine .running hp ha ?_
      intro j net hj he
      rw [List.getElem?_append] at he
      split at he
      · exact hc j net hj he
      · obtain rfl := List.mem_singleton.1 (List.mem_of_getElem? he)
        have hr := hclose net rfl
        rw [isRunning_iff.2 ⟨_, hp⟩] at hr
        cases hr
    | stopped hp hc =>
      obtain ⟨j, net, hj, he⟩ := hc
      refine .stopped hp ⟨j, net, hj, ?_⟩
      rw [List.getElem?_append_left (List.getElem?_eq_some_iff.1 he).1]
      exact he

theorem Lived.perform_unstarted (hp : (n.after acts).phase = .unstarted)
    (hn : ∀ i, ¬ n.StartsAt acts i) (ht : Tabled acts (n.after acts).registry.apis)
    (hx : Performed (n.after acts) x n') : Lived n (acts ++ [x]) n' := by
  cases hx with
  | registered hx _ ha hr =>
    subst hx
    refine .unstarted hp ?_ ?_
    · intro i hi
      apply hn i
      apply (startsAt_concat_of_quiet ?_).1 hi
      exact nofun
    · rw [hr]
      exact .register ht ha
  | @started net a hx _ hs ha =>
    subst hx
    have hs' (j : Nat) : n.StartsAt (acts ++ [.start net]) j ↔ j = acts.length := by
      rw [startsAt_concat, or_iff_right (hn j), and_iff_left]
      exact ⟨net, rfl, hs⟩
    refine .started hs' ?_ (.running rfl ha ?_)
    · rw [List.take_left]
      exact ht
    · intro j net hj
      rw [List.getElem?_eq_none]
      · exact nofun
      · rw [List.length_append]
        exact hj
  | stopped _ hp' => cases hp.symm.trans hp'
  | unchanged hr hq =>
    refine .unstarted hp ?_ (.other ht fun apis hx => hr apis hx hp)
    intro i
    rw [startsAt_concat_of_quiet hq]
    exact hn i

theorem Lived.perform (h : Lived n acts (n.after acts)) (x : Act) :
    Lived n (acts ++ [x]) ((n.after acts).perform x) := by
  have hx := (n.after acts).performed x
  cases h with
  | unstarted hp hn ht => exact .perform_unstarted hp hn ht hx
  | @started i hs ht hp =>
    have hi := ((hs i).2 rfl).lt
    obtain ⟨hp', hr⟩ := hp.perform hi hx
    refine .started ?_ ?_ hp'
    · intro j
      rw [startsAt_concat_of_quiet, hs]
      intro net _ hok
      exact hp.ne_unstarted (tryStart_eq_ok (Prod.ext hok rfl)).1
    · rw [List.take_append_of_le_length (Nat.le_of_lt hi), hr]
      exact ht

theorem lived (h : Node.new c secret = .ok n) (acts : List Act) : Lived n acts (n.after acts) := by
  induction acts using List.reverseRecOn with
  | nil => exact .of_new h
  | append_singleton acts x ih =>
    rw [after_concat]
    exact ih.perform x

theorem register_eq_alreadyStarted (apis : List Rpc.Api) :
    (n.register apis).1 = .error .alreadyStarted ↔ n.phase ≠ .unstarted := by
  unfold register
  split
  · next hp =>
    simp only [hp, ne_eq, not_true, iff_false]
    cases (registerAll apis n.registry).1 with
    | ok _ => exact nofun
    | error name => exact nofun
  · next hp => exact iff_of_true rfl hp

theorem answer_of_not_running (h : n.isRunning = false) (q : Query) :
    n.answer q = .error .notStarted := by
  have ha : n.addresses = .error .notStarted := by
    unfold addresses
    split
    · next hp =>
      rw [isRunning_iff.2 ⟨_, hp⟩] at h
      cases h
    · rfl
  cases q with
  | http => simp only [answer, httpEndpoint, endpoint, address, ha]; rfl
  | websocket => simp only [answer, websocketEndpoint, endpoint, address, ha]; rfl
  | httpAuth => simp only [answer, httpAuthEndpoint, endpoint, address, ha]; rfl
  | websocketAuth => simp only [answer, websocketAuthEndpoint, endpoint, address, ha]; rfl

/-- What is answered with the address of a listener, if there is one. -/
def told (name scheme : String) (addr : Option SocketAddr) : Except Error String :=
  match addr with
  | some a => .ok s!"{scheme}{a.text}"
  | none => .error (.listenerDisabled name)

theorem answer_of_running (h : n.phase = .running a) :
    n.answer .http = told "http" "http://" a.http ∧
      n.answer .websocket = told "ws" "ws://" a.websocket ∧
      n.answer .httpAuth = .ok s!"http://{a.auth.text}" ∧
      n.answer .websocketAuth = .ok s!"ws://{a.auth.text}" := by
  have ha : n.addresses = .ok a := by simp only [addresses, h]
  obtain ⟨http, websocket, auth⟩ := a
  simp only [answer, httpEndpoint, websocketEndpoint, httpAuthEndpoint, websocketAuthEndpoint,
    endpoint, address, ha]
  refine ⟨?_, ?_, rfl, rfl⟩
  · cases http with
    | none => rfl
    | some addr => rfl
  · cases websocket with
    | none => rfl
    | some addr => rfl

theorem told_eq_disabled {addr : Option SocketAddr} :
    told name scheme addr = .error (.listenerDisabled name) ↔ addr.isSome = false := by
  cases addr with
  | none => simp [told]
  | some a => simp [told]

theorem told_ne_notStarted {addr : Option SocketAddr} :
    told name scheme addr ≠ .error .notStarted := by
  cases addr with
  | none => exact nofun
  | some a => exact nofun

theorem told_eq_ok {addr : Option SocketAddr} {b : SocketAddr} :
    told name scheme addr = .ok s!"{scheme}{b.text}" ↔ addr = some b := by
  cases addr with
  | none => simp [told]
  | some a =>
    simp only [told, Except.ok.injEq, String.append_right_inj, Option.some.injEq]
    exact Http.Url.text_injective.eq_iff

theorem answer_eq_notStarted (q : Query) :
    n.answer q = .error .notStarted ↔ n.isRunning = false := by
  refine ⟨fun h => ?_, fun h => answer_of_not_running h q⟩
  rw [Bool.eq_false_iff, ne_eq, isRunning_iff]
  rintro ⟨a, ha⟩
  obtain ⟨h₁, h₂, h₃, h₄⟩ := answer_of_running ha
  cases q with
  | http => exact told_ne_notStarted (h₁.symm.trans h)
  | websocket => exact told_ne_notStarted (h₂.symm.trans h)
  | httpAuth => cases h₃.symm.trans h
  | websocketAuth => cases h₄.symm.trans h

theorem Lived.startsAt_unique (h : Lived n acts n') (hi : n.StartsAt acts i)
    (hj : n.StartsAt acts j) : i = j := by
  cases h with
  | unstarted _ hn => exact (hn i hi).elim
  | started hs => exact ((hs i).1 hi).trans ((hs j).1 hj).symm

theorem Lived.ne_unstarted_iff (h : Lived n acts n') :
    n'.phase ≠ .unstarted ↔ ∃ i, n.StartsAt acts i := by
  cases h with
  | unstarted hp hn => exact iff_of_false (fun h => h hp) fun ⟨i, hi⟩ => hn i hi
  | started hs _ hp => exact iff_of_true hp.ne_unstarted ⟨_, (hs _).2 rfl⟩

theorem Lived.isRunning_iff_startsAt (h : Lived n acts n') :
    n'.isRunning ↔ ∃ i, n.StartsAt acts i ∧ ∀ j net, i < j → acts[j]? ≠ some (.close net) := by
  rw [isRunning_iff]
  cases h with
  | unstarted hp hn =>
    refine iff_of_false ?_ fun ⟨i, hi, _⟩ => hn i hi
    rw [hp]
    exact nofun
  | started hs _ hsince =>
    cases hsince with
    | running hp _ hc => exact iff_of_true ⟨_, hp⟩ ⟨_, (hs _).2 rfl, hc⟩
    | stopped hp hc =>
      apply iff_of_false
      · rw [hp]
        exact nofun
      · rintro ⟨k, hk, hno⟩
        obtain rfl := (hs k).1 hk
        obtain ⟨j, net, hj, he⟩ := hc
        exact hno j net hj he

theorem Lived.suits (h : Lived n acts n') (hr : n'.isRunning) :
    ∃ a, n'.phase = .running a ∧ a.Suits n'.config := by
  obtain ⟨b, hb⟩ := isRunning_iff.1 hr
  cases h with
  | unstarted hp => cases hp.symm.trans hb
  | started _ _ hsince =>
    cases hsince with
    | running hp ha => exact ⟨_, hp, ha⟩
    | stopped hp => cases hp.symm.trans hb

theorem Tabled.cons_builtin (h : Tabled acts table) : ∃ added, table = web3 :: added := by
  induction h with
  | builtin => exact ⟨[], rfl⟩
  | register _ _ ih =>
    obtain ⟨added, rfl⟩ := ih
    exact ⟨_, rfl⟩
  | other _ _ ih => exact ih

/-- The table of a node that has been started is the one that there was at its start. -/
theorem Lived.tabled (h : Lived n acts n') (hi : n.StartsAt acts i) :
    ∃ added, Tabled (acts.take i) (web3 :: added) ∧ n'.registry.apis = web3 :: added := by
  have ht : Tabled (acts.take i) n'.registry.apis := by
    cases h with
    | unstarted _ hn => exact (hn i hi).elim
    | started hs ht =>
      obtain rfl := (hs i).1 hi
      exact ht
  obtain ⟨added, he⟩ := ht.cons_builtin
  exact ⟨added, he ▸ ht, he⟩

/-- A node is started at most once, runs until it is closed, and takes services and starts only as
long as it has not been started. A start that fails leaves no trace, so that it can be made again.
Of the services, every listener offers those that there were at the start. -/
theorem lifecycle (h : Node.new c secret = .ok n) (acts : List Act) :
    let m := n.after acts
    (∀ i j, n.StartsAt acts i → n.StartsAt acts j → i = j) ∧
    (m.isRunning ↔
      ∃ i, n.StartsAt acts i ∧ ∀ j net, i < j → acts[j]? ≠ some (.close net)) ∧
    (∀ apis, (m.register apis).1 = .error .alreadyStarted ↔ ∃ i, n.StartsAt acts i) ∧
    (∀ net, (m.tryStart net).1 = .error .alreadyStarted ↔ ∃ i, n.StartsAt acts i) ∧
    (∀ q, m.answer q = .error .notStarted ↔ m.isRunning = false) ∧
    (m.isRunning →
      (m.answer .http = .error (.listenerDisabled "http") ↔ c.http.enabled = false) ∧
      (m.answer .websocket = .error (.listenerDisabled "ws") ↔ c.websocket.enabled = false) ∧
      ∃ auth : SocketAddr,
        m.answer .httpAuth = .ok s!"http://{auth.text}" ∧
        m.answer .websocketAuth = .ok s!"ws://{auth.text}" ∧
        m.answer .http ≠ .ok s!"http://{auth.text}" ∧
        m.answer .websocket ≠ .ok s!"ws://{auth.text}") ∧
    (∀ net e m' net', m.tryStart net = (.error e, m', net') → m' = m ∧ net' = net) ∧
    (∀ net, net.Exclusive → ((m.tryStart net).1 = .ok () ↔
      (¬ ∃ i, n.StartsAt acts i) ∧ ∃ bounds opened, net.Opens c.wanted bounds opened)) ∧
    (∀ i, n.StartsAt acts i → ∃ added, Tabled (acts.take i) (web3 :: added) ∧
      ∀ l, (m.router l).dispatcher.registry.apis = web3 :: added) := by
  intro m
  have hl : Lived n acts m := lived h acts
  have hc : m.config = c := (config_after n acts).trans (new_config h)
  refine ⟨fun _ _ => hl.startsAt_unique, hl.isRunning_iff_startsAt, ?_, ?_, answer_eq_notStarted,
    ?_, fun _ _ _ _ => tryStart_eq_error, ?_, ?_⟩
  · intro apis
    rw [register_eq_alreadyStarted, hl.ne_unstarted_iff]
  · intro net
    rw [tryStart_eq_alreadyStarted, hl.ne_unstarted_iff]
  · intro hr
    obtain ⟨a, hp, ha⟩ := hl.suits hr
    rw [hc] at ha
    obtain ⟨h₁, h₂, h₃, h₄⟩ := answer_of_running hp
    rw [h₁, h₂, told_eq_disabled, told_eq_disabled, ha.http, ha.websocket]
    refine ⟨Iff.rfl, Iff.rfl, a.auth, h₃, h₄, ?_, ?_⟩
    · rw [ne_eq, told_eq_ok]
      exact ha.distinct.1
    · rw [ne_eq, told_eq_ok]
      exact ha.distinct.2
  · intro net hx
    rw [tryStart_succeeds_iff hx, ← hl.ne_unstarted_iff, not_not, hc]
  · intro i hi
    obtain ⟨added, ht, he⟩ := hl.tabled hi
    exact ⟨added, ht, fun _ => he⟩

/-- A node that has been given a service, started and closed is not started again. -/
theorem lifecycle_closed :
    let node : Node := {
      config := {}
      secret := ⟨List.replicate 32 7, by decide⟩
      registry := ⟨[web3], by simp⟩ }
    let acts : List Act := [.register [⟨"eth", "1.0", web3.service, false⟩], .start {}, .close {}]
    Node.new {} node.secret = .ok node ∧ node.StartsAt acts 1 ∧
      (node.after acts).isRunning = false ∧
      ((node.after acts).tryStart {}).1 = .error .alreadyStarted := by
  intro node acts
  have hn : Node.new {} node.secret = .ok node := rfl
  have hs : node.StartsAt acts 1 := ⟨{}, rfl, rfl⟩
  obtain ⟨once, running, -, start, -⟩ := lifecycle hn acts
  refine ⟨hn, hs, ?_, (start {}).2 ⟨1, hs⟩⟩
  rw [Bool.eq_false_iff, ne_eq, running]
  rintro ⟨i, hi, hopen⟩
  obtain rfl := once i 1 hi hs
  exact hopen 2 {} (by decide) rfl

end

end TokenGate.Node
