import TokenGate.Proofs.Client.Exchange
import TokenGate.Proofs.Http.Events
/-!
How a client that waits on a socket finds the answer to its call among all that comes in. An event
either decides the call or is skipped, and the first that decides it does so.
-/
namespace TokenGate.Client

open Http (Event)

/-- An event is a message that can be read as a value. -/
def Carries (e : Event) (j : Json) : Prop :=
  ∃ text, e.message? = some text ∧ Json.read? text = some j

/-- A value answers a call if it bears its id, or is an error that bears no id or null. -/
def AnswersCall (id : UInt64) (j : Json) : Prop :=
  j.get? "id" = some (idValue id) ∨
    (j.get? "id" = none ∨ j.get? "id" = some .null) ∧ ∃ e, j.get? "error" = some e

/-- The events that a call passes over. -/
inductive Skips (id : UInt64) : Event → Prop where
  | ping : Skips id .ping
  | pong : Skips id .pong
  | other (h : Carries e j) (hn : ¬ AnswersCall id j) : Skips id e

/-- The events that decide a call, with its outcome. -/
inductive Decides (id : UInt64) : Event → Except Error Json → Prop where
  | answer (h : Carries e j) (ha : AnswersCall id j) : Decides id e (.ok j)
  | noValue (h : e.message? = some text) (hn : Json.read? text = none) (reason : String) :
      Decides id e (.error (.invalidResponse reason))
  | noText (h : Utf8.decode? b = none) (reason : String) :
      Decides id (.binary b) (.error (.invalidResponse reason))
  | close : Decides id .close (.error .closed)
  | failure (reason : String) : Decides id .failure (.error (.transport reason))

/-- Whether an event is a message that every call takes for its answer: one that is no value, or an
error that bears no id or null. -/
def isStray (e : Event) : Bool :=
  match e.message? with
  | some text =>
    match Json.read? text with
    | some j => (j.get? "id" matches none | some .null) && (j.get? "error").isSome
    | none => true
  | none => e matches .binary _

/-- What a call comes to among events, and the events that are left for the calls after it. -/
inductive Settles (id : UInt64) : List Event → Except Error Json × List Event → Prop where
  | closed (h : ∀ e ∈ events, Skips id e) : Settles id events (.error .closed, [])
  | decided (h : ∀ e ∈ before, Skips id e) (hd : Decides id e outcome) (after : List Event) :
      Settles id (before ++ e :: after) (outcome, after)

variable {id id' : UInt64} {e : Event} {j j' : Json} {text : String}

theorem Carries.unique (h : Carries e j) (h' : Carries e j') : j = j' := by
  obtain ⟨text, hm, hr⟩ := h
  obtain ⟨text', hm', hr'⟩ := h'
  obtain rfl : text = text' := Option.some.inj (hm.symm.trans hm')
  exact Option.some.inj (hr.symm.trans hr')

theorem idValue_inj (h : idValue id = idValue id') : id = id' := by
  rw [idValue, idValue, Json.ofInt_eq_num (Json.uint64_inRange id),
    Json.ofInt_eq_num (Json.uint64_inRange id')] at h
  injection h with h
  injection h with h
  exact UInt64.toNat_inj.1 (Int.ofNat_inj.1 h)

theorem idValue_ne_null (id : UInt64) : idValue id ≠ .null := by
  rw [idValue, Json.ofInt_eq_num (Json.uint64_inRange id)]
  intro h
  cases h

theorem answers_iff : answers id j ↔ AnswersCall id j := by
  rw [answers, AnswersCall, idValue, Json.ofInt_eq_num (Json.uint64_inRange id)]
  split
  · next i h hi => simp [hi]
  · next hi => simp [hi, Option.isSome_iff_exists]
  · next hi => simp [hi, Option.isSome_iff_exists]
  · next j' hint hnull hi =>
    simp only [hi, Bool.false_eq_true, Option.some.injEq, reduceCtorEq, false_or, false_iff, not_or,
      not_and]
    exact ⟨fun h => hint _ _ h, fun h => (hnull h).elim⟩

/-- A value that bears the id of a call answers no other. -/
theorem not_answersCall (h : j.get? "id" = some (idValue id')) (hne : id ≠ id') :
    ¬ AnswersCall id j := by
  rintro (hi | ⟨hi | hi, -⟩)
  · exact hne (idValue_inj (Option.some.inj (hi.symm.trans h)))
  · cases hi.symm.trans h
  · exact idValue_ne_null id' (Option.some.inj (h.symm.trans hi))

theorem readMessage_of_none (h : Json.read? text = none) :
    ∃ reason, readMessage text = .error (.invalidResponse reason) := by
  rw [Json.read?] at h
  rw [readMessage, Json.Decoder.decode_any]
  cases hr : Json.read text with
  | ok j =>
    rw [hr] at h
    cases h
  | error f => exact ⟨_, rfl⟩

theorem readEvent_of_message (h : e.message? = some text) (id : UInt64) :
    readEvent id e = do
      let j ← readMessage text
      return if answers id j then some j else none := by
  cases e with
  | text s =>
    cases h
    rfl
  | binary b =>
    rw [readEvent, readBytes, Json.decodeBytes_of_text h]
    rfl
  | ping => cases h
  | pong => cases h
  | close => cases h
  | failure => cases h

theorem readEvent_of_carries (h : Carries e j) (id : UInt64) :
    readEvent id e = .ok (if answers id j then some j else none) := by
  obtain ⟨text, hm, hr⟩ := h
  rw [readEvent_of_message hm, readMessage_eq_ok (Json.read?_eq_some.1 hr)]
  rfl

theorem readEvent_of_skips (h : Skips id e) : readEvent id e = .ok none := by
  cases h with
  | ping => rfl
  | pong => rfl
  | other h hn => rw [readEvent_of_carries h, if_neg (mt answers_iff.1 hn)]

theorem skips_or_decides (id : UInt64) (e : Event) :
    Skips id e ∨ ∃ outcome, Decides id e outcome ∧ readEvent id e = outcome.map some := by
  cases hm : e.message? with
  | some text =>
    cases hr : Json.read? text with
    | none =>
      obtain ⟨reason, hread⟩ := readMessage_of_none hr
      refine .inr ⟨_, .noValue hm hr reason, ?_⟩
      rw [readEvent_of_message hm, hread]
      rfl
    | some j =>
      have hc : Carries e j := ⟨text, hm, hr⟩
      by_cases ha : AnswersCall id j
      · refine .inr ⟨_, .answer hc ha, ?_⟩
        rw [readEvent_of_carries hc, if_pos (answers_iff.2 ha)]
        rfl
      · exact .inl (.other hc ha)
  | none =>
    cases e with
    | text s => cases hm
    | binary b =>
      obtain ⟨fault, hf⟩ := Json.decodeBytes_of_no_text hm
      refine .inr ⟨_, .noText hm fault.message, ?_⟩
      rw [readEvent, readBytes, hf]
      rfl
    | ping => exact .inl .ping
    | pong => exact .inl .pong
    | close => exact .inr ⟨_, .close, rfl⟩
    | failure => exact .inr ⟨_, .failure _, rfl⟩

/-- No event does both. -/
theorem Skips.not_decides (h : Skips id e) (outcome : Except Error Json) :
    ¬ Decides id e outcome := by
  intro hd
  cases h with
  | ping => nomatch hd
  | pong => nomatch hd
  | other h hn =>
    have ⟨text, hm, hr⟩ := h
    cases hd with
    | answer h' ha =>
      obtain rfl := h.unique h'
      exact hn ha
    | noValue hm' hr' =>
      obtain rfl := Option.some.inj (hm.symm.trans hm')
      cases hr.symm.trans hr'
    | noText hb => cases hm.symm.trans hb
    | close => cases hm
    | failure => cases hm

theorem isStray_of_carries (h : Carries e j) :
    isStray e ↔ (j.get? "id" = none ∨ j.get? "id" = some .null) ∧ (j.get? "error").isSome := by
  obtain ⟨text, hm, hr⟩ := h
  simp only [isStray, hm, hr, Bool.and_eq_true]
  refine and_congr_left fun _ => ?_
  split
  · next h => simp [h]
  · next h => simp [h]
  · next hn hnull => simpa using ⟨hn, hnull⟩

/-- No call passes over a stray message. -/
theorem Skips.not_isStray (h : Skips id e) : ¬ isStray e := by
  cases h with
  | ping => exact Bool.false_ne_true
  | pong => exact Bool.false_ne_true
  | other h hn =>
    intro hs
    obtain ⟨hi, he⟩ := (isStray_of_carries h).1 hs
    exact hn (.inr ⟨hi, Option.isSome_iff_exists.1 he⟩)

theorem decides_of_isStray (h : isStray e) (id : UInt64) :
    ∃ outcome, Decides id e outcome ∧ readEvent id e = outcome.map some :=
  (skips_or_decides id e).resolve_left fun hs => hs.not_isStray h

theorem not_ends_of_isStray (h : isStray e) : ¬ e.Ends := by
  rintro (rfl | rfl) <;> cases h

theorem not_ends_of_carries (h : Carries e j) : ¬ e.Ends := by
  obtain ⟨text, hm, -⟩ := h
  rintro (rfl | rfl) <;> cases hm

/-- A message that decides a call is the answer to it if it is a value. -/
theorem Decides.eq_of_carries (hd : Decides id e outcome) (h : Carries e j) : outcome = .ok j := by
  have ⟨text, hm, hr⟩ := h
  cases hd with
  | answer h' => rw [h.unique h']
  | noValue hm' hr' =>
    obtain rfl := Option.some.inj (hm.symm.trans hm')
    cases hr.symm.trans hr'
  | noText hb => cases hm.symm.trans hb
  | close => cases hm
  | failure => cases hm

theorem Settles.cons (hs : Skips id e) (h : Settles id events result) :
    Settles id (e :: events) result := by
  cases h with
  | closed h => exact .closed (List.forall_mem_cons.2 ⟨hs, h⟩)
  | decided h hd after => exact .decided (List.forall_mem_cons.2 ⟨hs, h⟩) hd after

section
variable (socket : Nat) (rest : List Event) (isOpen : Bool)

theorem awaitAnswer_of_skips (h : Skips id e) :
    awaitAnswer id ⟨socket, e :: rest, isOpen⟩ = awaitAnswer id ⟨socket, rest, isOpen⟩ := by
  rw [awaitAnswer.eq_def]
  simp only [readEvent_of_skips h]

theorem awaitAnswer_of_decides (h : readEvent id e = outcome.map some) :
    ∃ isOpen', awaitAnswer id ⟨socket, e :: rest, isOpen⟩ = (outcome, ⟨socket, rest, isOpen'⟩) := by
  rw [awaitAnswer.eq_def]
  cases outcome with
  | ok j =>
    rw [Except.map] at h
    simp only [h]
    exact ⟨isOpen, rfl⟩
  | error cause =>
    rw [Except.map] at h
    simp only [h]
    exact ⟨_, rfl⟩

theorem awaitAnswer_settles (id : UInt64) (events : List Event) :
    Settles id events ((awaitAnswer id ⟨socket, events, isOpen⟩).1,
      (awaitAnswer id ⟨socket, events, isOpen⟩).2.unread) := by
  induction events with
  | nil =>
    rw [awaitAnswer]
    exact .closed (List.forall_mem_nil _)
  | cons e rest ih =>
    rcases skips_or_decides id e with hs | ⟨outcome, hd, hr⟩
    · rw [awaitAnswer_of_skips socket rest isOpen hs]
      exact ih.cons hs
    · obtain ⟨isOpen', he⟩ := awaitAnswer_of_decides socket rest isOpen hr
      rw [he]
      exact .decided (List.forall_mem_nil _) hd rest

/-- A call that is sent over an open socket comes to what decides it first among the events that
have not been read yet and those that are sent back for it. -/
theorem ask_settles (peer : Peer σ) (unread : List Event) (id : UInt64) (body : Json) (s : σ) :
    Settles id (unread ++ (peer.send socket (.text body.text) s).1)
        ((ask peer ⟨socket, unread, true⟩ id body s).1,
          (ask peer ⟨socket, unread, true⟩ id body s).2.1.unread) ∧
      (ask peer ⟨socket, unread, true⟩ id body s).2.2 = (peer.send socket (.text body.text) s).2 :=
  ⟨awaitAnswer_settles socket true id _, rfl⟩

/-- A call reads past events that it skips up to the message that decides it. -/
theorem awaitAnswer_append (hs : ∀ e ∈ before, Skips id e) (h : readEvent id e = outcome.map some)
    (he : ¬ e.Ends) :
    awaitAnswer id ⟨socket, before ++ e :: rest, isOpen⟩ = (outcome, ⟨socket, rest, isOpen⟩) := by
  induction before with
  | nil =>
    rw [List.nil_append, awaitAnswer.eq_def]
    cases outcome with
    | ok j =>
      rw [Except.map] at h
      simp only [h]
    | error cause =>
      rw [Except.map] at h
      simp only [h]
      cases e with
      | close => exact (he (.inl rfl)).elim
      | failure => exact (he (.inr rfl)).elim
      | text | binary | ping | pong => simp only [Bool.not_false, Bool.and_true]
  | cons e' before ih =>
    rw [List.forall_mem_cons] at hs
    rw [List.cons_append, awaitAnswer_of_skips socket _ isOpen hs.1]
    exact ih hs.2

end

end TokenGate.Client
