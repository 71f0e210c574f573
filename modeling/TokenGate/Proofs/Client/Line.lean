import TokenGate.Proofs.Client.Matching
/-!
Many calls over one socket. Calls get their ids one by one and are sent in any order; one that is
abandoned leaves its answer to be read by those after it. No call takes an answer that bears the id
of another, but the first that comes to an answer without an id takes that.
-/
namespace TokenGate.Client

open Http (Event)

/-- A call that has an id. -/
structure Pending where
  id : UInt64
  method : String
  params : Json

def Pending.payload (c : Pending) : Json := Client.payload c.id c.method c.params

/-- The socket of a client and the other end of it, with the calls that wait to be sent, and those
that have been sent and to which the other end owes an answer. -/
structure Line (σ : Type) where
  stream : Stream
  nextId : UInt64
  waiting : List Pending
  owed : List Pending
  server : σ

/-- An event that no call takes for its answer. -/
def Quiet (e : Event) : Prop := ∀ id, Skips id e

/-- A message that bears the id of a call. -/
def Bears (e : Event) (id : UInt64) : Prop :=
  ∃ j, Carries e j ∧ j.get? "id" = some (idValue id)

/-- What may answer a call: a message that bears its id, or a stray one. -/
def Replies (e : Event) (id : UInt64) : Prop := Bears e id ∨ isStray e

/-- What the other end sends: to the calls to which it owes answers one each, in their order, and
in between what nobody takes for an answer. What may answer a call is given. -/
inductive Pays (R : Event → UInt64 → Prop) : List Pending → List Event → List Pending → Prop where
  | nil (owed : List Pending) : Pays R owed [] owed
  | quiet (hq : Quiet e) (h : Pays R owed events left) : Pays R owed (e :: events) left
  | answer (hr : R e c.id) (h : Pays R owed events left) : Pays R (c :: owed) (e :: events) left

/-- The events that remain when a call is abandoned that has read at most a number of them. -/
def passOver (id : UInt64) : Nat → List Event → List Event
  | k + 1, e :: rest =>
    match readEvent id e with
    | .ok none => passOver id k rest
    | _ => e :: rest
  | _, events => events

section
variable {e : Event} {id id' : UInt64} {owed left : List Pending} {events : List Event}
  {R R' : Event → UInt64 → Prop}

/-- An answer to a call can be taken for one. -/
theorem Bears.not_quiet (h : Bears e id) : ¬ Quiet e := by
  obtain ⟨j, hj, hi⟩ := h
  intro hq
  exact (hq id).not_decides _ (.answer hj (.inl hi))

theorem Bears.not_isStray (h : Bears e id) : ¬ isStray e := by
  obtain ⟨j, hj, hi⟩ := h
  rw [isStray_of_carries hj, hi]
  rintro ⟨hn | hn, -⟩
  · cases hn
  · exact idValue_ne_null id (Option.some.inj hn)

theorem Bears.unique (h : Bears e id) (h' : Bears e id') : id = id' := by
  obtain ⟨j, hj, hi⟩ := h
  obtain ⟨j', hj', hi'⟩ := h'
  obtain rfl := hj.unique hj'
  exact idValue_inj (Option.some.inj (hi.symm.trans hi'))

theorem Bears.skips (h : Bears e id) (hne : id' ≠ id) : Skips id' e := by
  obtain ⟨j, hj, hi⟩ := h
  exact .other hj (not_answersCall hi hne)

/-- What may answer a call decides it. -/
theorem Replies.decides (h : Replies e id) :
    ¬ e.Ends ∧ ∃ outcome, Decides id e outcome ∧ readEvent id e = outcome.map some := by
  rcases h with ⟨j, hj, hi⟩ | hs
  · have hskips : ¬ Skips id e := fun h => h.not_decides _ (.answer hj (.inl hi))
    exact ⟨not_ends_of_carries hj, (skips_or_decides id e).resolve_left hskips⟩
  · exact ⟨not_ends_of_isStray hs, decides_of_isStray hs id⟩

theorem Pays.mem (h : Pays R owed events left) :
    ∀ e ∈ events, Quiet e ∨ ∃ c ∈ owed, R e c.id := by
  induction h with
  | nil owed => exact List.forall_mem_nil _
  | quiet hq _ ih => exact List.forall_mem_cons.2 ⟨.inl hq, ih⟩
  | answer hr _ ih =>
    refine List.forall_mem_cons.2 ⟨.inr ⟨_, List.mem_cons_self, hr⟩, ?_⟩
    intro e he
    rcases ih e he with hq | ⟨c, hc, hr⟩
    · exact .inl hq
    · exact .inr ⟨c, List.mem_cons_of_mem _ hc, hr⟩

theorem Pays.mono (hR : ∀ e id, R e id → R' e id) (h : Pays R owed events left) :
    Pays R' owed events left := by
  induction h with
  | nil owed => exact .nil owed
  | quiet hq _ ih => exact .quiet hq ih
  | answer hr _ ih => exact .answer (hR _ _ hr) ih

/-- If all answers bear the ids of their calls, none of them is stray. -/
theorem Pays.not_isStray (h : Pays Bears owed events left) : ∀ e ∈ events, ¬ isStray e := by
  intro e he
  rcases h.mem e he with hq | ⟨c, -, hb⟩
  · exact (hq 0).not_isStray
  · exact hb.not_isStray

theorem Pays.left_subset (h : Pays R owed events left) : ∀ c ∈ left, c ∈ owed := by
  induction h with
  | nil owed => exact fun _ hc => hc
  | quiet _ _ ih => exact ih
  | answer _ _ ih => exact fun c hc => List.mem_cons_of_mem _ (ih c hc)

theorem passOver_zero (id : UInt64) (events : List Event) : passOver id 0 events = events := by
  cases events <;> rfl

theorem passOver_subset (id : UInt64) (k : Nat) (events : List Event) :
    ∀ e ∈ passOver id k events, e ∈ events := by
  induction events generalizing k with
  | nil => cases k <;> exact fun _ h => h
  | cons e rest ih =>
    cases k with
    | zero => exact fun _ h => h
    | succ k =>
      rw [passOver]
      split
      · intro e' h
        exact List.mem_cons_of_mem _ (ih k e' h)
      · exact fun _ h => h

end

namespace Line

variable {σ : Type}

def client (x : Line σ) (provider : Option Provider) : Client :=
  ⟨.websocket x.stream, provider, x.nextId⟩

/-- A call begins, and gets the next id. -/
def issue (x : Line σ) (method : String) (params : Json) : Line σ :=
  { x with
    nextId := x.nextId + 1
    waiting := x.waiting ++ [⟨x.nextId, method, params⟩] }

/-- A call does not wait any more. -/
def without (x : Line σ) (c : Pending) : Line σ :=
  { x with waiting := x.waiting.filter (·.id ≠ c.id) }

/-- A call is sent and waits for its answer. -/
def ask (peer : Peer σ) (x : Line σ) (c : Pending) : Except Error Json × Line σ :=
  let (r, stream, server) := Client.ask peer x.stream c.id c.payload x.server
  (r, { x.without c with stream, server, owed := [] })

/-- A call is sent and completed. -/
def complete (peer : Peer σ) (d : Json.Decoder α) (x : Line σ) (c : Pending) :
    Except Error α × Line σ :=
  let (r, x) := x.ask peer c
  (r >>= decodeResponse d, x)

/-- A call is sent and abandoned, when it has read at most a number of events. -/
def abandon (peer : Peer σ) (x : Line σ) (c : Pending) (k : Nat) (owed : List Pending) : Line σ :=
  match transmit peer x.stream c.payload x.server with
  | (.error _, server) => { x.without c with server }
  | (.ok stream, server) =>
    { x.without c with
      stream := { stream with unread := passOver c.id k stream.unread }
      server
      owed }

/-- The other end sends something and changes. -/
def turn (x : Line σ) (events : List Event) (owed : List Pending) (server : σ) : Line σ :=
  { x with stream := { x.stream with unread := x.stream.unread ++ events }, owed, server }

/-- The id is that of a call that waits or to which an answer is owed, or of an answer that has not
been read. -/
def InUse (x : Line σ) (id : UInt64) : Prop :=
  (∃ c, (c ∈ x.waiting ∨ c ∈ x.owed) ∧ c.id = id) ∨ ∃ e ∈ x.stream.unread, Bears e id

/-- A call that is sent now is answered by a message, after all those to which answers are owed. -/
def Answered (R : Event → UInt64 → Prop) (peer : Peer σ) (x : Line σ) (c : Pending)
    (before : List Event) (e : Event) : Prop :=
  ∃ after, (peer.send x.stream.id (.text c.payload.text) x.server).1 = before ++ e :: after ∧
    Pays R x.owed before [] ∧ (∀ e ∈ after, Quiet e) ∧ R e c.id

/-- What a call takes for its answer: the first stray message that comes before the answer to it, if
there is one. -/
def taken (x : Line σ) (before : List Event) (e : Event) : Event :=
  ((x.stream.unread ++ before).find? isStray).getD e

/-- Lines as they come about, with the number of calls that have begun. Calls begin, and are
completed, or abandoned after they have been sent, or never sent at all; the other end answers those
that are sent, at once or later. Once all ids have been given out, a call begins only if the next
one is not in use any more. -/
inductive Lives (R : Event → UInt64 → Prop) (peer : Peer σ) : Nat → Line σ → Prop where
  | new (socket : Nat) (nextId : UInt64) (server : σ) :
      Lives R peer 0 ⟨{ id := socket }, nextId, [], [], server⟩
  | issue (h : Lives R peer n x) (hf : n < UInt64.size ∨ ¬ x.InUse x.nextId) (method : String)
      (params : Json) : Lives R peer (n + 1) (x.issue method params)
  | withdraw (h : Lives R peer n x) (c : Pending) : Lives R peer n (x.without c)
  | complete (h : Lives R peer n x) (hc : c ∈ x.waiting) (ha : x.Answered R peer c before e) :
      Lives R peer n (x.ask peer c).2
  | abandon (h : Lives R peer n x) (hc : c ∈ x.waiting)
      (hp : Pays R (x.owed ++ [c]) (peer.send x.stream.id (.text c.payload.text) x.server).1 left)
      (k : Nat) : Lives R peer n (x.abandon peer c k left)
  | turn (h : Lives R peer n x) (hp : Pays R x.owed events left) (server : σ) :
      Lives R peer n (x.turn events left server)

/-- No call of an id waits. -/
def Gone (x : Line σ) (id : UInt64) : Prop := ∀ c ∈ x.waiting, c.id ≠ id

/-- What holds of a line: the ids in use are those of calls that have begun, and no call that waits
has the id of one to which an answer is owed or has not been read. -/
structure Sound (first : UInt64) (n : Nat) (x : Line σ) : Prop where
  isOpen : x.stream.isOpen
  nextId : x.nextId = first + UInt64.ofNat n
  begun : ∀ id, x.InUse id → ∃ m < n, id = first + UInt64.ofNat m
  owed : ∀ c ∈ x.owed, x.Gone c.id
  unread : ∀ e ∈ x.stream.unread, Quiet e ∨ isStray e ∨ ∃ id, Bears e id ∧ x.Gone id

variable {peer : Peer σ} {first id : UInt64} {n : Nat} {x y : Line σ} {c c' : Pending} {j : Json}
  {left : List Pending} {e : Event} {before events : List Event}

theorem gone_without (x : Line σ) (c : Pending) : (x.without c).Gone c.id := by
  intro c' hc
  simpa using (List.mem_filter.1 hc).2

theorem without_subset (h : c' ∈ (x.without c).waiting) : c' ∈ x.waiting :=
  (List.mem_filter.1 h).1

/-- To the call an answer was owed, or it has left. -/
def Released (x y : Line σ) (c : Pending) : Prop := c ∈ x.owed ∨ c ∈ x.waiting ∧ y.Gone c.id

theorem Gone.of_subset (h : x.Gone id) (hw : ∀ c ∈ y.waiting, c ∈ x.waiting) : y.Gone id := by
  intro c hc
  exact h c (hw c hc)

theorem Sound.inUse (h : Sound first n x) (hw : ∀ c ∈ y.waiting, c ∈ x.waiting)
    (hr : x.Released y c) : x.InUse c.id ∧ y.Gone c.id := by
  rcases hr with hc | ⟨hc, hg⟩
  · exact ⟨.inl ⟨c, .inr hc, rfl⟩, (h.owed c hc).of_subset hw⟩
  · exact ⟨.inl ⟨c, .inl hc, rfl⟩, hg⟩

/-- A line stays sound when calls leave it, and what comes in is nobody's answer or that to a call
which has left. -/
theorem Sound.of_leave (h : Sound first n x) (hs : y.stream.isOpen) (hn : y.nextId = x.nextId)
    (hw : ∀ c ∈ y.waiting, c ∈ x.waiting) (ho : ∀ c ∈ y.owed, x.Released y c)
    (hu : ∀ e ∈ y.stream.unread,
      e ∈ x.stream.unread ∨ Quiet e ∨ ∃ c, x.Released y c ∧ Replies e c.id) :
    Sound first n y := by
  refine ⟨hs, hn.trans h.nextId, ?_, fun c hc => (h.inUse hw (ho c hc)).2, ?_⟩
  · intro id hid
    apply h.begun
    rcases hid with ⟨c, hc | hc, rfl⟩ | ⟨e, he, hb⟩
    · exact .inl ⟨c, .inl (hw c hc), rfl⟩
    · exact (h.inUse hw (ho c hc)).1
    · rcases hu e he with hx | hq | ⟨c, hc, hb' | hs⟩
      · exact .inr ⟨e, hx, hb⟩
      · exact (hb.not_quiet hq).elim
      · obtain rfl := hb.unique hb'
        exact (h.inUse hw hc).1
      · exact (hb.not_isStray hs).elim
  · intro e he
    rcases hu e he with hx | hq | ⟨c, hc, hb | hs⟩
    · rcases h.unread e hx with hq | hs | ⟨id, hb, hg⟩
      · exact .inl hq
      · exact .inr (.inl hs)
      · exact .inr (.inr ⟨id, hb, hg.of_subset hw⟩)
    · exact .inl hq
    · exact .inr (.inr ⟨c.id, hb, (h.inUse hw hc).2⟩)
    · exact .inr (.inl hs)

/-- As long as not all ids have been given out, the next is not in use. -/
theorem Sound.fresh (h : Sound first n x) (hf : n < UInt64.size ∨ ¬ x.InUse x.nextId) :
    ¬ x.InUse x.nextId := by
  rcases hf with hf | hf
  · intro hu
    obtain ⟨m, hm, he⟩ := h.begun _ hu
    rw [h.nextId, UInt64.add_right_inj] at he
    have he := congrArg UInt64.toNat he
    rw [UInt64.toNat_ofNat_of_lt' hf, UInt64.toNat_ofNat_of_lt' (Nat.lt_trans hm hf)] at he
    exact Nat.ne_of_gt hm he
  · exact hf

theorem Gone.issue (h : x.Gone id) (hne : x.nextId ≠ id) (method : String) (params : Json) :
    (x.issue method params).Gone id := by
  intro c hc
  rcases List.mem_append.1 hc with hc | hc
  · exact h c hc
  · rw [List.mem_singleton.1 hc]
    exact hne

theorem Sound.issue (h : Sound first n x) (hf : ¬ x.InUse x.nextId) (method : String)
    (params : Json) : Sound first (n + 1) (x.issue method params) := by
  have hnext (id : UInt64) (hid : x.InUse id) : x.nextId ≠ id := by
    rintro rfl
    exact hf hid
  refine ⟨h.isOpen, ?_, ?_, ?_, ?_⟩
  · rw [Line.issue, h.nextId, UInt64.ofNat_add, UInt64.add_assoc]
    rfl
  · intro id hid
    have hx : x.InUse id ∨ id = x.nextId := by
      rcases hid with ⟨c, hc | hc, rfl⟩ | hu
      · rcases List.mem_append.1 hc with hc | hc
        · exact .inl (.inl ⟨c, .inl hc, rfl⟩)
        · rw [List.mem_singleton.1 hc]
          exact .inr rfl
      · exact .inl (.inl ⟨c, .inr hc, rfl⟩)
      · exact .inl (.inr hu)
    rcases hx with hx | rfl
    · obtain ⟨m, hm, he⟩ := h.begun id hx
      exact ⟨m, Nat.lt_succ_of_lt hm, he⟩
    · exact ⟨n, Nat.lt_succ_self n, h.nextId⟩
  · intro c hc
    exact (h.owed c hc).issue (hnext _ (.inl ⟨c, .inr hc, rfl⟩)) method params
  · intro e he
    rcases h.unread e he with hq | hs | ⟨id, hb, hg⟩
    · exact .inl hq
    · exact .inr (.inl hs)
    · exact .inr (.inr ⟨id, hb, hg.issue (hnext _ (.inr ⟨e, he, hb⟩)) method params⟩)

/-- A call that waits passes over all that is there before its answer, but for stray messages. -/
theorem Sound.skips (h : Sound first n x) (hc : c ∈ x.waiting)
    (hp : Pays Replies x.owed events left) :
    ∀ e ∈ x.stream.unread ++ events, ¬ isStray e → Skips c.id e := by
  intro e he hn
  rcases List.mem_append.1 he with he | he
  · rcases h.unread e he with hq | hs | ⟨id, hb, hg⟩
    · exact hq c.id
    · exact (hn hs).elim
    · exact hb.skips (hg c hc)
  · rcases hp.mem e he with hq | ⟨c', hc', hb | hs⟩
    · exact hq c.id
    · exact hb.skips (h.owed c' hc' c hc)
    · exact (hn hs).elim

/-- A call that waits comes to what it takes for its answer, and leaves behind what comes after
that. -/
theorem Sound.ask_eq (h : Sound first n x) (hc : c ∈ x.waiting)
    (ha : x.Answered Replies peer c before e) :
    ∃ outcome left, Decides c.id (x.taken before e) outcome ∧
      (∀ e' ∈ left, e' ∈ x.stream.unread ++ before ∨ e' = e ∨ Quiet e') ∧
      x.ask peer c = (outcome, { x.without c with
        stream := { x.stream with unread := left }
        server := (peer.send x.stream.id (.text c.payload.text) x.server).2
        owed := [] }) := by
  obtain ⟨after, hs, hp, hq, hr⟩ := ha
  have hask (pre : List Event) {post : List Event} {e' : Event} {outcome : Except Error Json}
      (he : x.stream.unread ++ (before ++ e :: after) = pre ++ e' :: post)
      (hpre : ∀ e ∈ pre, Skips c.id e) (hread : readEvent c.id e' = outcome.map some)
      (hends : ¬ e'.Ends) : x.ask peer c = (outcome, { x.without c with
        stream := { x.stream with unread := post }
        server := (peer.send x.stream.id (.text c.payload.text) x.server).2
        owed := [] }) := by
    have hw := awaitAnswer_append x.stream.id post true hpre hread hends
    simp only [Line.ask, Client.ask, transmit, h.isOpen, if_true, hs, he, hw]
  have hskips := h.skips hc hp
  rw [taken]
  cases hf : (x.stream.unread ++ before).find? isStray with
  | none =>
    obtain ⟨hends, outcome, hd, hread⟩ := hr.decides
    refine ⟨outcome, after, hd, fun e he => .inr (.inr (hq e he)), ?_⟩
    refine hask _ (List.append_assoc ..).symm ?_ hread hends
    intro e he
    exact hskips e he (List.find?_eq_none.1 hf e he)
  | some e' =>
    obtain ⟨hstray, pre, post, hsplit, hpre⟩ := List.find?_eq_some_iff_append.1 hf
    obtain ⟨outcome, hd, hread⟩ := decides_of_isStray hstray c.id
    refine ⟨outcome, post ++ e :: after, hd, ?_, ?_⟩
    · intro e₁ he
      rcases List.mem_append.1 he with he | he
      · rw [hsplit]
        exact .inl (List.mem_append_right _ (List.mem_cons_of_mem _ he))
      · rcases List.mem_cons.1 he with rfl | he
        · exact .inr (.inl rfl)
        · exact .inr (.inr (hq e₁ he))
    · refine hask pre ?_ ?_ hread (not_ends_of_isStray hstray)
      · rw [← List.append_assoc, hsplit, List.append_assoc, List.cons_append]
      · intro e₁ he
        apply hskips e₁ (hsplit ▸ List.mem_append_left _ he)
        simpa using hpre e₁ he

theorem abandon_eq (ho : x.stream.isOpen)
    (hs : peer.send x.stream.id (.text c.payload.text) x.server = (sent, s)) (k : Nat)
    (owed : List Pending) :
    x.abandon peer c k owed = { x.without c with
      stream := { x.stream with unread := passOver c.id k (x.stream.unread ++ sent) }
      server := s
      owed } := by
  simp only [Line.abandon, transmit, ho, if_true, hs]

theorem Sound.without (h : Sound first n x) (c : Pending) : Sound first n (x.without c) :=
  h.of_leave h.isOpen rfl (fun _ => without_subset) (fun _ => .inl) fun _ => .inl

theorem Sound.ask (h : Sound first n x) (hc : c ∈ x.waiting)
    (ha : x.Answered Replies peer c before e) : Sound first n (x.ask peer c).2 := by
  obtain ⟨outcome, left, -, hleft, he⟩ := h.ask_eq hc ha
  obtain ⟨after, -, hp, -, hr⟩ := ha
  rw [he]
  refine h.of_leave h.isOpen rfl (fun _ => without_subset) (List.forall_mem_nil _) ?_
  intro e' he'
  rcases hleft e' he' with hm | rfl | hq
  · rcases List.mem_append.1 hm with hm | hm
    · exact .inl hm
    · rcases hp.mem e' hm with hq | ⟨c', hc', hr'⟩
      · exact .inr (.inl hq)
      · exact .inr (.inr ⟨c', .inl hc', hr'⟩)
  · exact .inr (.inr ⟨c, .inr ⟨hc, x.gone_without c⟩, hr⟩)
  · exact .inr (.inl hq)

theorem Sound.abandon (h : Sound first n x) (hc : c ∈ x.waiting)
    (hp : Pays Replies (x.owed ++ [c])
      (peer.send x.stream.id (.text c.payload.text) x.server).1 left) (k : Nat) :
    Sound first n (x.abandon peer c k left) := by
  have hleft : ∀ c' ∈ x.owed ++ [c], x.Released (x.without c) c' := by
    intro c' hc'
    rcases List.mem_append.1 hc' with hc' | hc'
    · exact .inl hc'
    · rw [List.mem_singleton.1 hc']
      exact .inr ⟨hc, x.gone_without c⟩
  rw [abandon_eq h.isOpen rfl]
  refine h.of_leave h.isOpen rfl (fun _ => without_subset) ?_ ?_
  · intro c' hc'
    exact hleft c' (hp.left_subset c' hc')
  · intro e he
    rcases List.mem_append.1 (passOver_subset _ _ _ e he) with he | he
    · exact .inl he
    · rcases hp.mem e he with hq | ⟨c', hc', hr⟩
      · exact .inr (.inl hq)
      · exact .inr (.inr ⟨c', hleft c' hc', hr⟩)

theorem Sound.turn (h : Sound first n x) (hp : Pays Replies x.owed events left) (server : σ) :
    Sound first n (x.turn events left server) := by
  refine h.of_leave h.isOpen rfl (fun _ hc => hc) ?_ ?_
  · intro c hc
    exact .inl (hp.left_subset c hc)
  · intro e he
    rcases List.mem_append.1 he with he | he
    · exact .inl he
    · rcases hp.mem e he with hq | ⟨c, hc, hr⟩
      · exact .inr (.inl hq)
      · exact .inr (.inr ⟨c, .inl hc, hr⟩)

theorem Lives.sound (h : Lives Replies peer n x) : ∃ first, Sound first n x := by
  induction h with
  | new socket nextId server =>
    refine ⟨nextId, rfl, (UInt64.add_zero _).symm, ?_, List.forall_mem_nil _,
      List.forall_mem_nil _⟩
    rintro id (⟨c, hc | hc, -⟩ | ⟨e, he, -⟩)
    · cases hc
    · cases hc
    · cases he
  | issue _ hf method params ih =>
    obtain ⟨first, h⟩ := ih
    exact ⟨first, h.issue (h.fresh hf) method params⟩
  | withdraw _ c ih =>
    obtain ⟨first, h⟩ := ih
    exact ⟨first, h.without c⟩
  | complete _ hc ha ih =>
    obtain ⟨first, h⟩ := ih
    exact ⟨first, h.ask hc ha⟩
  | abandon _ hc hp k ih =>
    obtain ⟨first, h⟩ := ih
    exact ⟨first, h.abandon hc hp k⟩
  | turn _ hp server ih =>
    obtain ⟨first, h⟩ := ih
    exact ⟨first, h.turn hp server⟩

theorem Lives.ask_decides (h : x.Lives Replies peer n) (hc : c ∈ x.waiting)
    (ha : x.Answered Replies peer c before e) :
    Decides c.id (x.taken before e) (x.ask peer c).1 := by
  obtain ⟨first, h⟩ := h.sound
  obtain ⟨outcome, left, hd, -, he⟩ := h.ask_eq hc ha
  rw [he]
  exact hd

/-- A call that is completed has the result that is in what it takes for its answer. -/
theorem Lives.complete_eq (h : x.Lives Replies peer n) (hc : c ∈ x.waiting)
    (ha : x.Answered Replies peer c before e) (hj : Carries (x.taken before e) j)
    (d : Json.Decoder α) :
    (x.complete peer d c).1 = decodeResponse d j := by
  have hr : (x.ask peer c).1 = .ok j := (h.ask_decides hc ha).eq_of_carries hj
  change (x.ask peer c).1 >>= decodeResponse d = decodeResponse d j
  rw [hr]
  rfl

theorem taken_of_not_isStray (h : ∀ e' ∈ x.stream.unread ++ before, ¬ isStray e') :
    x.taken before e = e := by
  rw [taken, List.find?_eq_none.2 h]
  rfl

section
variable {R R' : Event → UInt64 → Prop} (hR : ∀ e id, R e id → R' e id)
include hR

theorem Answered.mono (h : x.Answered R peer c before e) : x.Answered R' peer c before e := by
  obtain ⟨after, hs, hp, hq, hr⟩ := h
  exact ⟨after, hs, hp.mono hR, hq, hR _ _ hr⟩

theorem Lives.mono (h : x.Lives R peer n) : x.Lives R' peer n := by
  induction h with
  | new socket nextId server => exact .new socket nextId server
  | issue _ hf method params ih => exact ih.issue hf method params
  | withdraw _ c ih => exact ih.withdraw c
  | complete _ hc ha ih => exact ih.complete hc (ha.mono hR)
  | abandon _ hc hp k ih => exact ih.abandon hc (hp.mono hR) k
  | turn _ hp server ih => exact ih.turn (hp.mono hR) server

end

/-- If all answers bear the ids of their calls, nothing stray is left to be read. -/
theorem Lives.not_isStray (h : x.Lives Bears peer n) : ∀ e ∈ x.stream.unread, ¬ isStray e := by
  induction h with
  | new => exact List.forall_mem_nil _
  | issue _ _ _ _ ih => exact ih
  | withdraw _ _ ih => exact ih
  | complete h hc ha ih =>
    obtain ⟨first, hs⟩ := (h.mono fun _ _ => .inl).sound
    obtain ⟨outcome, left, -, hleft, he⟩ := hs.ask_eq hc (ha.mono fun _ _ => .inl)
    obtain ⟨after, -, hp, -, hb⟩ := ha
    rw [he]
    intro e' he'
    rcases hleft e' he' with hm | rfl | hq
    · exact List.forall_mem_append.2 ⟨ih, hp.not_isStray⟩ e' hm
    · exact hb.not_isStray
    · exact (hq 0).not_isStray
  | abandon h hc hp k ih =>
    obtain ⟨first, hs⟩ := (h.mono fun _ _ => .inl).sound
    rw [abandon_eq hs.isOpen rfl]
    intro e he
    exact List.forall_mem_append.2 ⟨ih, hp.not_isStray⟩ e (passOver_subset _ _ _ e he)
  | turn _ hp server ih => exact List.forall_mem_append.2 ⟨ih, hp.not_isStray⟩

/-- If all answers bear the ids of their calls, a call that is completed has the result that is in
the answer to itself. -/
theorem Lives.complete_of_bears (h : x.Lives Bears peer n) (hc : c ∈ x.waiting)
    (ha : x.Answered Bears peer c before e) (hj : Carries e j) (d : Json.Decoder α) :
    (x.complete peer d c).1 = decodeResponse d j := by
  have hstray : ∀ e' ∈ x.stream.unread ++ before, ¬ isStray e' := by
    obtain ⟨after, -, hp, -⟩ := ha
    exact List.forall_mem_append.2 ⟨h.not_isStray, hp.not_isStray⟩
  rw [← taken_of_not_isStray hstray (e := e)] at hj
  exact (h.mono fun _ _ => .inl).complete_eq hc (ha.mono fun _ _ => .inl) hj d

/-- A call that is completed as soon as it has begun is a call of the client. -/
theorem call_eq (x : Line σ) (peer : Peer σ) (d : Json.Decoder α) (method : String) (params : Json)
    (provider : Option Provider) (now : Instant) :
    let completed := (x.issue method params).complete peer d ⟨x.nextId, method, params⟩
    (x.client provider).call peer d method params now x.server =
      (completed.1, completed.2.client provider, completed.2.server) := rfl

end Line

end TokenGate.Client
