import Mathlib.Data.List.Induction
import TokenGate.Provider
/-!
Sequences within sequences. Each keeps a position of its own, and together they ask the leaves of
the tree one after the other, as a single sequence of leaves would.
-/
namespace TokenGate.Provider

open Http (Headers)

/-- Paths into providers that stand in a row, each after its index: the first path of each, and
all the paths of the last. -/
def chain (i : Nat) : List (List (List Nat)) → List (List Nat)
  | [] => []
  | [paths] => paths.map (i :: ·)
  | paths :: more => (paths.take 1).map (i :: ·) ++ chain (i + 1) more

mutual

/-- The paths to the leaves that a provider will ask, in the order in which it will. It stays with
the last one. -/
def flat : Provider → List (List Nat)
  | .sequence first rest position => (chain 0 (flat first :: flats rest)).drop position
  | .signed _ _ => [[]]
  | .unsigned => [[]]
  | .function _ _ => [[]]

def flats : List Provider → List (List (List Nat))
  | [] => []
  | p :: ps => flat p :: flats ps

end

/-- What stands at the end of a path. -/
def at? : Provider → List Nat → Option Provider
  | p, [] => some p
  | .sequence first rest _, i :: path => (first :: rest)[i]?.bind (at? · path)
  | _, _ :: _ => none

/-- No sequence in the tree has a position beyond its last provider. -/
inductive InRange : Provider → Prop where
  | signed : InRange (.signed secret offset)
  | unsigned : InRange .unsigned
  | function : InRange (.function f asked)
  | sequence (h : ∀ p ∈ first :: rest, InRange p) (hp : position ≤ rest.length) :
      InRange (.sequence first rest position)

/-- A provider after it has been asked a number of times. -/
def after (p : Provider) (calls : List (Instant × Headers)) : Provider :=
  calls.foldl (fun p call => (p.invoke call.1 call.2).2) p

/-- Those of a number of calls that come to a path when each comes to the next of the paths. -/
def share (paths : List (List Nat)) (path : List Nat) (calls : List α) : List α :=
  (calls.zipIdx.filter fun call => paths[min call.2 (paths.length - 1)]? = some path).map Prod.fst

variable {p q first : Provider} {ps rest before behind : List Provider} {position : Nat}
  {path : List Nat} {now : Instant} {fields : Headers}

theorem flats_eq_map (ps : List Provider) : flats ps = ps.map flat := by
  induction ps with
  | nil => rfl
  | cons p ps ih => rw [flats, ih, List.map_cons]

theorem chain_cons (i : Nat) {paths : List (List Nat)} {more : List (List (List Nat))}
    (h : more ≠ []) :
    chain i (paths :: more) = (paths.take 1).map (i :: ·) ++ chain (i + 1) more := by
  cases more with
  | nil => exact (h rfl).elim
  | cons next more => rfl

/-- All but the last provide one path each. -/
theorem drop_chain {before : List (List (List Nat))} (h : ∀ paths ∈ before, paths ≠ []) (i : Nat)
    (paths : List (List Nat)) (more : List (List (List Nat))) :
    (chain i (before ++ paths :: more)).drop before.length =
      chain (i + before.length) (paths :: more) := by
  induction before generalizing i with
  | nil => rfl
  | cons b before ih =>
    obtain ⟨hb, hrest⟩ := List.forall_mem_cons.1 h
    obtain ⟨first, others, rfl⟩ := List.exists_cons_of_ne_nil hb
    have hn : before ++ paths :: more ≠ [] :=
      List.append_ne_nil_of_right_ne_nil _ (List.cons_ne_nil _ _)
    rw [List.cons_append, chain_cons i hn]
    simp only [List.take_succ_cons, List.take_zero, List.map_cons, List.map_nil,
      List.singleton_append, List.length_cons, List.drop_succ_cons]
    rw [ih hrest, Nat.add_assoc, Nat.add_comm 1]

theorem mem_chain {more : List (List (List Nat))} (h : path ∈ chain i more) :
    ∃ j tail paths, path = (i + j) :: tail ∧ more[j]? = some paths ∧ tail ∈ paths := by
  induction more generalizing i with
  | nil => cases h
  | cons paths more ih =>
    by_cases hm : more = []
    · subst hm
      obtain ⟨tail, ht, rfl⟩ := List.mem_map.1 h
      exact ⟨0, tail, paths, rfl, rfl, ht⟩
    · rw [chain_cons i hm] at h
      rcases List.mem_append.1 h with h | h
      · obtain ⟨tail, ht, rfl⟩ := List.mem_map.1 h
        exact ⟨0, tail, paths, rfl, rfl, List.mem_of_mem_take ht⟩
      · obtain ⟨j, tail, paths, rfl, hj, ht⟩ := ih h
        exact ⟨j + 1, tail, paths, by rw [Nat.add_assoc, Nat.add_comm 1], hj, ht⟩

theorem chain_ne_nil {paths : List (List Nat)} (h : paths ≠ []) (i : Nat)
    (more : List (List (List Nat))) : chain i (paths :: more) ≠ [] := by
  obtain ⟨first, others, rfl⟩ := List.exists_cons_of_ne_nil h
  cases more with
  | nil => exact List.cons_ne_nil _ _
  | cons next more => exact List.cons_ne_nil _ _

theorem chain_concat (i : Nat) (more : List (List (List Nat))) (last : List (List Nat)) :
    chain i (more ++ [last]) =
      ((more.zipIdx i).flatMap fun row => (row.1.take 1).map (row.2 :: ·)) ++
        last.map ((i + more.length) :: ·) := by
  induction more generalizing i with
  | nil => rfl
  | cons paths more ih =>
    rw [List.cons_append, chain_cons i (List.concat_ne_nil _ _), ih, List.zipIdx_cons,
      List.flatMap_cons, List.append_assoc, List.length_cons, Nat.add_assoc, Nat.add_comm 1]

/-- A new sequence will ask one leaf of each of its providers but the last, and then all those of
the last. -/
theorem flat_sequenceOf (h : sequenceOf (ps ++ [q]) = .ok p) :
    p.flat = ((ps.zipIdx).flatMap fun row => (row.1.flat.take 1).map (row.2 :: ·)) ++
      q.flat.map (ps.length :: ·) := by
  obtain ⟨first, rest, hs⟩ := List.exists_cons_of_ne_nil (List.concat_ne_nil q ps)
  have hc := chain_concat 0 (ps.map flat) q.flat
  have hm : ps.map flat ++ [q.flat] = flat first :: flats rest := by
    rw [flats_eq_map, ← List.map_cons, ← hs, List.map_append]
    rfl
  rw [hs, sequenceOf] at h
  cases h
  rw [flat, List.drop_zero, ← hm, hc, List.zipIdx_map, List.flatMap_map, List.length_map,
    Nat.zero_add]
  rfl

theorem inRange_sequenceOf (h : ∀ q ∈ ps, q.InRange) (hp : sequenceOf ps = .ok p) :
    p.InRange := by
  cases ps with
  | nil => cases hp
  | cons first rest =>
    cases hp
    exact .sequence h (Nat.zero_le _)

theorem exists_split (h : position ≤ rest.length) (first : Provider) :
    ∃ before q behind, first :: rest = before ++ q :: behind ∧ before.length = position := by
  have hp : position < (first :: rest).length := Nat.lt_succ_of_le h
  refine ⟨(first :: rest).take position, (first :: rest)[position],
    (first :: rest).drop (position + 1), ?_, List.length_take_of_le (Nat.le_of_lt hp)⟩
  rw [List.getElem_cons_drop, List.take_append_drop]

/-- The paths of a sequence are those of the provider at its position, and of those behind. -/
theorem flat_sequence (hs : first :: rest = before ++ q :: behind)
    (hb : ∀ p ∈ before, p.flat ≠ []) :
    (sequence first rest before.length).flat =
      chain before.length (q.flat :: behind.map flat) := by
  have hm : flat first :: flats rest = before.map flat ++ q.flat :: behind.map flat := by
    rw [flats_eq_map, ← List.map_cons, hs, List.map_append, List.map_cons]
  have hd := drop_chain (List.forall_mem_map.2 hb) 0 q.flat (behind.map flat)
  rw [List.length_map, Nat.zero_add] at hd
  rw [flat, hm, hd]

theorem InRange.flat_ne_nil (h : p.InRange) : p.flat ≠ [] := by
  induction h with
  | signed => exact List.cons_ne_nil _ _
  | unsigned => exact List.cons_ne_nil _ _
  | function => exact List.cons_ne_nil _ _
  | sequence h hp ih =>
    obtain ⟨before, q, behind, hs, rfl⟩ := exists_split hp _
    rw [hs] at ih
    rw [flat_sequence hs fun p hp => ih p (List.mem_append_left _ hp)]
    exact chain_ne_nil (ih q (List.mem_append_right _ List.mem_cons_self)) _ _

theorem invokeAt_append (before : List Provider) (q : Provider) (behind : List Provider)
    (now : Instant) (fields : Headers) :
    invokeAt (before ++ q :: behind) before.length now fields =
      ((q.invoke now fields).1, before ++ (q.invoke now fields).2 :: behind) := by
  induction before with
  | nil => simp only [List.nil_append, List.length_nil, invokeAt]
  | cons b before ih => simp only [List.cons_append, List.length_cons, invokeAt, ih]

/-- A sequence passes a call on to the provider at its position. -/
theorem invoke_sequence (hs : first :: rest = before ++ q :: behind) (now : Instant)
    (fields : Headers) :
    ∃ first' rest', first' :: rest' = before ++ (q.invoke now fields).2 :: behind ∧
      rest'.length = rest.length ∧
      (sequence first rest before.length).invoke now fields =
        ((q.invoke now fields).1,
          .sequence first' rest' (nextPosition rest.length before.length)) := by
  cases before with
  | nil =>
    obtain ⟨rfl, rfl⟩ := List.cons.inj hs
    refine ⟨_, _, rfl, rfl, ?_⟩
    simp only [List.length_nil, invoke]
  | cons b before =>
    rw [List.cons_append] at hs
    obtain ⟨rfl, rfl⟩ := List.cons.inj hs
    refine ⟨_, _, rfl, by simp only [List.append_eq, List.length_append, List.length_cons], ?_⟩
    simp only [List.length_cons, invoke, invokeAt_append]
    rfl

/-- A call to a provider is one to the leaf at a path, the next of its paths. Only that leaf is
asked, and the paths that are left are those of the provider afterwards. -/
structure Passes (p : Provider) (now : Instant) (fields : Headers) (path : List Nat)
    (leaf : Provider) : Prop where
  next : p.flat.head? = some path
  found : p.at? path = some leaf
  isLeaf : leaf.position? = none
  result : (p.invoke now fields).1 = (leaf.invoke now fields).1
  inRange : (p.invoke now fields).2.InRange
  left : (p.invoke now fields).2.flat = p.flat.drop (min 1 (p.flat.length - 1))
  asked : (p.invoke now fields).2.at? path = some (leaf.invoke now fields).2
  spared : ∀ path' leaf', p.at? path' = some leaf' → leaf'.position? = none → path' ≠ path →
    (p.invoke now fields).2.at? path' = some leaf'

/-- A provider that is no sequence is the only leaf of its tree. -/
theorem single_leaf (h : p.position? = none) :
    p.InRange ∧ p.flat = [[]] ∧ ∀ i path, p.at? (i :: path) = none := by
  cases p with
  | signed => exact ⟨.signed, rfl, fun _ _ => rfl⟩
  | unsigned => exact ⟨.unsigned, rfl, fun _ _ => rfl⟩
  | function => exact ⟨.function, rfl, fun _ _ => rfl⟩
  | sequence => cases h

theorem position?_invoke (h : p.position? = none) (now : Instant) (fields : Headers) :
    (p.invoke now fields).2.position? = none := by
  cases p with
  | signed => simp only [invoke, position?]
  | unsigned => simp only [invoke, position?]
  | function => simp only [invoke, position?]
  | sequence => cases h

theorem passes_of_leaf (h : p.position? = none) (now : Instant) (fields : Headers) :
    p.Passes now fields [] p := by
  obtain ⟨-, hf, hnone⟩ := single_leaf h
  obtain ⟨hr, hf', -⟩ := single_leaf (position?_invoke h now fields)
  refine ⟨by rw [hf]; rfl, rfl, h, rfl, hr, by rw [hf', hf]; rfl, rfl, ?_⟩
  intro path' leaf' hl _ hp
  cases path' with
  | nil => exact (hp rfl).elim
  | cons i path' =>
    rw [hnone] at hl
    cases hl

theorem getElem?_append_cons_of_ne {before behind : List α} {j : Nat} (a b : α)
    (h : j ≠ before.length) : (before ++ a :: behind)[j]? = (before ++ b :: behind)[j]? := by
  rcases Nat.lt_or_gt_of_ne h with h | h
  · rw [List.getElem?_append_left h, List.getElem?_append_left h]
  · rw [List.getElem?_append_right (Nat.le_of_lt h), List.getElem?_append_right (Nat.le_of_lt h)]
    obtain ⟨k, hk⟩ := Nat.exists_eq_succ_of_ne_zero (Nat.sub_ne_zero_of_lt h)
    rw [hk]
    rfl

theorem at?_sequence (hs : first :: rest = before ++ q :: behind) (position : Nat)
    (path : List Nat) :
    (sequence first rest position).at? (before.length :: path) = q.at? path := by
  rw [at?, hs, List.getElem?_append_right (Nat.le_refl _), Nat.sub_self]
  rfl

theorem length_rest (hs : first :: rest = before ++ q :: behind) :
    rest.length = before.length + behind.length := by
  have hl := congrArg List.length hs
  simp only [List.length_cons, List.length_append] at hl
  omega

/-- When the provider at the position of a sequence has gone on to the next of its paths, and the
sequence to the next of its providers, the sequence has gone on to the next of its own paths. -/
theorem flat_nextPosition {q' first' : Provider} {rest' : List Provider}
    (hs : first :: rest = before ++ q :: behind) (hs' : first' :: rest' = before ++ q' :: behind)
    (hr : ∀ p ∈ before ++ behind, p.flat ≠ []) (hq : q.flat ≠ [])
    (hq' : q'.flat = q.flat.drop (min 1 (q.flat.length - 1))) :
    (sequence first' rest' (nextPosition rest.length before.length)).flat =
      (sequence first rest before.length).flat.drop
        (min 1 ((sequence first rest before.length).flat.length - 1)) := by
  obtain ⟨hbefore, hbehind⟩ := List.forall_mem_append.1 hr
  have hlen := length_rest hs
  cases behind with
  | nil =>
    -- the sequence stays with its last provider, which goes on by itself
    have hp : nextPosition rest.length before.length = before.length :=
      if_neg (Nat.not_lt.2 (Nat.le_of_eq hlen))
    rw [hp, flat_sequence hs hbefore, flat_sequence hs' hbefore, List.map_nil, chain, chain, hq',
      List.map_drop, List.length_map]
  | cons b behind =>
    -- the sequence goes on, however many paths are left to the provider behind it
    have hp : nextPosition rest.length before.length = before.length + 1 :=
      if_pos (by rw [hlen, List.length_cons]; omega)
    have hne : q'.flat ≠ [] := by
      have hl := List.length_pos_iff.2 hq
      rw [hq', ← List.length_pos_iff, List.length_drop]
      omega
    have hs'' : first' :: rest' = (before ++ [q']) ++ b :: behind := by
      rw [hs', List.append_assoc]
      rfl
    have hf := flat_sequence hs'' (List.forall_mem_append.2
      ⟨hbefore, List.forall_mem_singleton.2 hne⟩)
    rw [List.length_append, List.length_singleton] at hf
    obtain ⟨path, others, ho⟩ := List.exists_cons_of_ne_nil hq
    obtain ⟨next, more, hm⟩ := List.exists_cons_of_ne_nil
      (chain_ne_nil (hbehind b List.mem_cons_self) (before.length + 1) (behind.map flat))
    rw [hp, hf, flat_sequence hs hbefore, List.map_cons, chain_cons _ (List.cons_ne_nil _ _), hm,
      ho]
    rfl

/-- A call that is passed on by the provider at its position is passed on by a sequence. -/
theorem Passes.sequence (hs : first :: rest = before ++ q :: behind)
    (hr : ∀ p ∈ before ++ behind, p.InRange) (h : q.Passes now fields path leaf) :
    (Provider.sequence first rest before.length).Passes now fields (before.length :: path)
      leaf := by
  obtain ⟨first', rest', hs', hlen', hi⟩ := invoke_sequence hs now fields
  obtain ⟨more, hq⟩ := List.head?_eq_some_iff.1 h.next
  have hflat : ∀ p ∈ before ++ behind, p.flat ≠ [] := fun p hp => (hr p hp).flat_ne_nil
  obtain ⟨hbefore, hbehind⟩ := List.forall_mem_append.1 hr
  constructor
  case next =>
    rw [flat_sequence hs (List.forall_mem_append.1 hflat).1, hq]
    cases behind with
    | nil => rfl
    | cons b behind => rfl
  case found => rw [at?_sequence hs, h.found]
  case isLeaf => exact h.isLeaf
  case result => rw [hi, h.result]
  case inRange =>
    rw [hi]
    refine .sequence ?_ ?_
    · rw [hs']
      exact List.forall_mem_append.2 ⟨hbefore, List.forall_mem_cons.2 ⟨h.inRange, hbehind⟩⟩
    · rw [hlen', nextPosition]
      have hlen := length_rest hs
      split <;> omega
  case left =>
    rw [hi]
    exact flat_nextPosition hs hs' hflat (hq ▸ List.cons_ne_nil _ _) h.left
  case asked => rw [hi, at?_sequence hs', h.asked]
  case spared =>
    intro path' leaf' hl hleaf hne
    rw [hi]
    cases path' with
    | nil =>
      cases hl
      cases hleaf
    | cons j path' =>
      by_cases hj : j = before.length
      · subst hj
        rw [at?_sequence hs] at hl
        rw [at?_sequence hs']
        exact h.spared path' leaf' hl hleaf fun he => hne (congrArg (_ :: ·) he)
      · rw [at?, hs] at hl
        rw [at?, hs', getElem?_append_cons_of_ne _ q hj]
        exact hl

theorem InRange.passes (h : p.InRange) (now : Instant) (fields : Headers) :
    ∃ path leaf, p.Passes now fields path leaf := by
  induction h with
  | signed => exact ⟨_, _, passes_of_leaf rfl now fields⟩
  | unsigned => exact ⟨_, _, passes_of_leaf rfl now fields⟩
  | function => exact ⟨_, _, passes_of_leaf rfl now fields⟩
  | sequence h hp ih =>
    obtain ⟨before, q, behind, hs, rfl⟩ := exists_split hp _
    rw [hs] at h ih
    obtain ⟨path, leaf, hq⟩ := ih q (List.mem_append_right _ List.mem_cons_self)
    obtain ⟨hbefore, hbehind⟩ := List.forall_mem_append.1 h
    exact ⟨_, leaf, hq.sequence hs
      (List.forall_mem_append.2 ⟨hbefore, (List.forall_mem_cons.1 hbehind).2⟩)⟩

theorem after_concat (p : Provider) (calls : List (Instant × Headers)) (call : Instant × Headers) :
    p.after (calls ++ [call]) = ((p.after calls).invoke call.1 call.2).2 := by
  rw [after, List.foldl_append]
  rfl

theorem position?_after (h : p.position? = none) (calls : List (Instant × Headers)) :
    (p.after calls).position? = none := by
  induction calls generalizing p with
  | nil => exact h
  | cons call calls ih => exact ih (position?_invoke h call.1 call.2)

theorem share_concat (paths : List (List Nat)) (path : List Nat) (calls : List α) (call : α) :
    share paths path (calls ++ [call]) = share paths path calls ++
      if paths[min calls.length (paths.length - 1)]? = some path then [call] else [] := by
  rw [share, List.zipIdx_append, List.filter_append, List.map_append, share]
  congr 1
  by_cases h : paths[min calls.length (paths.length - 1)]? = some path
  · simp [h]
  · simp [h]

theorem InRange.leaf_of_mem_flat (h : p.InRange) (hp : path ∈ p.flat) :
    ∃ leaf, p.at? path = some leaf ∧ leaf.position? = none := by
  induction h generalizing path with
  | signed => exact ⟨_, by rw [List.mem_singleton.1 hp]; rfl, rfl⟩
  | unsigned => exact ⟨_, by rw [List.mem_singleton.1 hp]; rfl, rfl⟩
  | function => exact ⟨_, by rw [List.mem_singleton.1 hp]; rfl, rfl⟩
  | @sequence first rest position h hposition ih =>
    rw [flat, flats_eq_map, ← List.map_cons] at hp
    obtain ⟨j, tail, paths, rfl, hj, ht⟩ := mem_chain (List.mem_of_mem_drop hp)
    rw [List.getElem?_map, Option.map_eq_some_iff] at hj
    obtain ⟨q, hq, rfl⟩ := hj
    obtain ⟨leaf, hl, hleaf⟩ := ih q (List.mem_of_getElem? hq) ht
    refine ⟨leaf, ?_, hleaf⟩
    rw [at?, Nat.zero_add, hq]
    exact hl

/-- What a provider has become by a number of calls. Each leaf has been asked for its share. -/
structure Reached (p : Provider) (calls : List (Instant × Headers)) (q : Provider) : Prop where
  inRange : q.InRange
  left : q.flat = p.flat.drop (min calls.length (p.flat.length - 1))
  leaves : ∀ path leaf, p.at? path = some leaf → leaf.position? = none →
    q.at? path = some (leaf.after (share p.flat path calls))

variable {calls : List (Instant × Headers)}

/-- The next call is passed on to the leaf at the path whose turn it is. -/
theorem Reached.passes (h : p.Reached calls q) (hp : p.InRange) (now : Instant)
    (fields : Headers) :
    ∃ path leaf, p.flat[min calls.length (p.flat.length - 1)]? = some path ∧
      p.at? path = some leaf ∧ leaf.position? = none ∧
      q.Passes now fields path (leaf.after (share p.flat path calls)) := by
  obtain ⟨path, asked, hq⟩ := h.inRange.passes now fields
  have hn := hq.next
  rw [h.left, List.head?_drop] at hn
  obtain ⟨leaf, hl, hleaf⟩ := hp.leaf_of_mem_flat (List.mem_of_getElem? hn)
  obtain rfl := Option.some.inj (hq.found.symm.trans (h.leaves path leaf hl hleaf))
  exact ⟨path, leaf, hn, hl, hleaf, hq⟩

theorem Reached.step (h : p.Reached calls q) (hp : p.InRange) (call : Instant × Headers) :
    p.Reached (calls ++ [call]) (q.invoke call.1 call.2).2 := by
  obtain ⟨path, leaf, hn, hl, hleaf, hq⟩ := h.passes hp call.1 call.2
  have hlen : 0 < p.flat.length := List.length_pos_iff.2 hp.flat_ne_nil
  refine ⟨hq.inRange, ?_, ?_⟩
  · rw [hq.left, h.left, List.length_drop, List.drop_drop, List.length_append,
      List.length_singleton]
    congr 1
    omega
  · intro path' leaf' hl' hleaf'
    rw [share_concat]
    by_cases he : path' = path
    · subst he
      obtain rfl := Option.some.inj (hl.symm.trans hl')
      rw [if_pos hn, after_concat]
      exact hq.asked
    · have hne : ¬ p.flat[min calls.length (p.flat.length - 1)]? = some path' :=
        fun hn' => he (Option.some.inj (hn'.symm.trans hn))
      rw [if_neg hne, List.append_nil]
      exact hq.spared path' _ (h.leaves path' leaf' hl' hleaf') (position?_after hleaf' _) he

theorem InRange.reached (h : p.InRange) (calls : List (Instant × Headers)) :
    p.Reached calls (p.after calls) := by
  induction calls using List.reverseRecOn with
  | nil =>
    refine ⟨h, ?_, fun _ _ hl _ => hl⟩
    rw [List.length_nil, Nat.zero_min, List.drop_zero]
    rfl
  | append_singleton calls call ih =>
    rw [after_concat]
    exact ih.step h call

/-- A sequence moves on by one with each call, up to its last provider. -/
theorem after_sequence (h : (sequence first rest position).InRange)
    (calls : List (Instant × Headers)) :
    ∃ first' rest', (sequence first rest position).after calls =
      .sequence first' rest' (min (position + calls.length) rest.length) := by
  induction calls generalizing first rest position with
  | nil =>
    cases h with
    | sequence h hp =>
      rw [List.length_nil, Nat.add_zero, Nat.min_eq_left hp]
      exact ⟨first, rest, rfl⟩
  | cons call calls ih =>
    obtain ⟨_, _, hn⟩ := h.passes call.1 call.2
    cases h with
    | sequence h hp =>
      obtain ⟨before, q, behind, hs, rfl⟩ := exists_split hp first
      obtain ⟨first', rest', -, hlen, hi⟩ := invoke_sequence hs call.1 call.2
      have hr := hn.inRange
      rw [hi] at hr
      obtain ⟨first'', rest'', ha⟩ := ih hr
      refine ⟨first'', rest'', ?_⟩
      have hc : (sequence first rest before.length).after (call :: calls) =
          ((sequence first rest before.length).invoke call.1 call.2).2.after calls := rfl
      rw [hc, hi, ha, hlen, List.length_cons, nextPosition]
      congr 1
      split <;> omega

/-- A tree of sequences behaves as one list of its leaves. Call after call goes to the next leaf of
the list, the last one being asked for the rest; a call gives what that leaf gives, which has been
asked for its share of the calls before, as have all the others. No position leaves its sequence,
and that of the outermost counts the calls. -/
theorem invoke_after (h : p.InRange) (calls : List (Instant × Headers)) (now : Instant)
    (fields : Headers) :
    let q := p.after calls
    q.InRange ∧
    (∃ path leaf, p.flat[min calls.length (p.flat.length - 1)]? = some path ∧
      p.at? path = some leaf ∧ leaf.position? = none ∧
      (q.invoke now fields).1 = ((leaf.after (share p.flat path calls)).invoke now fields).1) ∧
    (∀ path leaf, p.at? path = some leaf → leaf.position? = none →
      q.at? path = some (leaf.after (share p.flat path calls))) ∧
    (∀ first rest position, p = .sequence first rest position →
      q.position? = some (min (position + calls.length) rest.length)) := by
  have hq := h.reached calls
  refine ⟨hq.inRange, ?_, hq.leaves, ?_⟩
  · obtain ⟨path, leaf, hn, hl, hleaf, hp⟩ := hq.passes h now fields
    exact ⟨path, leaf, hn, hl, hleaf, hp.result⟩
  · rintro first rest position rfl
    obtain ⟨first', rest', ha⟩ := after_sequence h calls
    rw [ha]
    rfl

/-- The second leaf of a sequence that stands before another is never asked. It makes no difference
that its first leaf fails. -/
theorem invoke_after_nested :
    let failing : Provider := .function (fun _ _ _ => .error .invalidHeader) 0
    let tree := sequence (sequence failing [token "b"] 0) [sequence nothing [unsigned] 0] 0
    let now : Instant := ⟨0, 0, by decide, by decide⟩
    let q := tree.after [(now, []), (now, [])]
    tree.InRange ∧ (q.invoke now []).1 = (unsigned.invoke now []).1 ∧
      q.at? [0, 1] = some (token "b") ∧ q.position? = some 1 := by
  intro failing tree now q
  have hpair {f g : Provider} (hf : f.InRange) (hg : g.InRange) : (sequence f [g] 0).InRange := by
    have hs : sequenceOf [f, g] = .ok (sequence f [g] 0) := rfl
    exact inRange_sequenceOf (List.forall_mem_cons.2 ⟨hf, List.forall_mem_singleton.2 hg⟩) hs
  have hin : tree.InRange := hpair (hpair .function .function) (hpair .function .unsigned)
  have hflat : tree.flat = [[0, 0], [1, 0], [1, 1]] := rfl
  obtain ⟨-, ⟨path, leaf, hn, hl, -, hr⟩, hleaves, hp⟩ :=
    invoke_after hin [(now, []), (now, [])] now []
  rw [hflat] at hn hr
  obtain rfl : [1, 1] = path := Option.some.inj hn
  obtain rfl : unsigned = leaf := Option.some.inj hl
  exact ⟨hin, hr, hleaves [0, 1] _ rfl rfl, hp _ _ _ rfl⟩

end TokenGate.Provider
