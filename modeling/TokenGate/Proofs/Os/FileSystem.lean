import Mathlib.Data.List.Induction
import TokenGate.Os.FileSystem
import TokenGate.Proofs.Basic
/-!
What operations on files leave alone. Nothing that stands somewhere is taken away, and a path whose
names all lead downwards is looked for only within directories above its end.
-/
namespace TokenGate.Os

theorem notMem_of_mem_splitOn [DecidableEq α] {x : α} {xs : List α} :
    ∀ part ∈ xs.splitOn x, x ∉ part := by
  induction xs with
  | nil => simp
  | cons y ys ih =>
    rw [List.splitOn_cons_eq_if_modifyHead]
    split
    · simpa using ih
    · next hy =>
      cases ho : ys.splitOn x with
      | nil => simp
      | cons first rest =>
        rw [ho, List.forall_mem_cons] at ih
        rw [List.modifyHead_cons, List.forall_mem_cons, List.mem_cons, not_or]
        exact ⟨⟨fun he => hy (by simp [he]), ih.1⟩, ih.2⟩

namespace Path

variable {p q : Path}

theorem isAbsolute_iff : p.isAbsolute ↔ p.segments.head? = some [] ∧ 1 < p.segments.length := by
  unfold isAbsolute segments
  cases p.text.toList with
  | nil => simp
  | cons c cs =>
    have hne := List.splitOn_ne_nil '/' cs
    cases ho : cs.splitOn '/' with
    | nil => exact (hne ho).elim
    | cons first rest =>
      by_cases hc : c = '/'
      · simp [List.splitOn_cons_eq_if_modifyHead, hc, ho]
      · simp [List.splitOn_cons_eq_if_modifyHead, hc, ho]

theorem isAbsolute_of_names_eq_nil (h : p.names = []) (ht : p.text ≠ "") : p.isAbsolute := by
  have hnil : ∀ s ∈ p.segments, s = [] := by simpa [names] using h
  rw [isAbsolute_iff]
  cases hs : p.segments with
  | nil => exact (List.splitOn_ne_nil _ _ hs).elim
  | cons first rest =>
    rw [hs, List.forall_mem_cons] at hnil
    refine ⟨by rw [hnil.1]; rfl, ?_⟩
    cases rest with
    | nil =>
      have he : p.text.toList = [] := by
        have hi := @List.intercalate_splitOn _ p.text.toList _ _ '/'
        rw [← segments, hs, hnil.1] at hi
        exact hi.symm
      exact (ht (String.toList_eq_nil_iff.1 he)).elim
    | cons second rest => simp

theorem segments_of_take (p : Path) (i : Nat) :
    (Path.mk (String.ofList (['/'].intercalate (p.segments.take (i + 1))))).segments =
      p.segments.take (i + 1) := by
  rw [segments, String.toList_ofList]
  apply List.splitOn_intercalate
  · intro s hs
    exact notMem_of_mem_splitOn s (List.mem_of_mem_take hs)
  · intro he
    rcases List.take_eq_nil_iff.1 he with h | h
    · cases h
    · exact List.splitOn_ne_nil _ _ h

/-- The parts of a path begin where it begins, and lead along the names that it begins with. -/
theorem ancestors_along (h : q ∈ p.ancestors) :
    q.isAbsolute = p.isAbsolute ∧ q.names <+: p.names := by
  obtain ⟨i, hi, rfl⟩ := List.mem_map.1 h
  rw [List.mem_reverse, List.mem_filter, List.mem_range] at hi
  obtain ⟨hi, hs⟩ := hi
  constructor
  · rw [Bool.eq_iff_iff, isAbsolute_iff, isAbsolute_iff, segments_of_take p i, List.head?_take,
      if_neg (Nat.succ_ne_zero i), List.length_take]
    apply and_congr_right
    intro hhead
    -- The part ends with a name, which is not what stands before the first slash.
    have hpos : i ≠ 0 := by
      rintro rfl
      rw [← List.head?_eq_getElem?, hhead] at hs
      simp at hs
    omega
  · rw [names, segments_of_take p i]
    exact ((List.take_prefix _ _).filter _).map _

end Path

namespace FileSystem

/-- Whatever stands somewhere stands in a directory. -/
def IsTree (fs : FileSystem) : Prop :=
  ∀ loc e, loc ≠ [] → fs.entries loc = some e →
    loc.dropLast = [] ∨ fs.entries loc.dropLast = some .directory

/-- Whatever stood somewhere still stands there. -/
structure Extends (fs fs' : FileSystem) : Prop where
  workingDirectory : fs'.workingDirectory = fs.workingDirectory
  entries : ∀ loc e, fs.entries loc = some e → fs'.entries loc = some e

theorem Extends.refl (fs : FileSystem) : fs.Extends fs := ⟨rfl, fun _ _ h => h⟩

theorem Extends.trans (h : Extends fs fs₁) (h' : Extends fs₁ fs') : fs.Extends fs' :=
  ⟨h'.workingDirectory.trans h.workingDirectory, fun loc e he => h'.entries loc e (h.entries loc e he)⟩

section
variable {fs fs' : FileSystem} {here loc : Location} {names : List String} {e e' : Entry} {p : Path}
  {f : File}

theorem lookUp_eq (fs : FileSystem) (h : fs'.lookUp loc = .ok x) :
    fs.lookUp loc = .ok (if loc = [] then some .directory else fs.entries loc) := by
  unfold lookUp at h ⊢
  split at h
  · cases h
  · next hs => rw [if_neg hs]

theorem lookUp_of_entries (h : fs'.lookUp loc = .ok x) (hl : loc ≠ [])
    (he : fs.entries loc = some e) : fs.lookUp loc = .ok (some e) := by
  rw [lookUp_eq fs h, if_neg hl, he]

theorem lookUp_eq_none (h : fs.lookUp loc = .ok none) : loc ≠ [] ∧ fs.entries loc = none := by
  have he := (lookUp_eq fs h).symm.trans h
  split at he
  · cases he
  · next hl => exact ⟨hl, Except.ok.inj he⟩

theorem lookUp_eq_file (h : fs.lookUp loc = .ok (some (.file f))) :
    loc ≠ [] ∧ fs.entries loc = some (.file f) := by
  have he := (lookUp_eq fs h).symm.trans h
  split at he
  · cases he
  · next hl => exact ⟨hl, Except.ok.inj he⟩

theorem lookUp_eq_directory (h : fs'.lookUp loc = .ok x) :
    fs.lookUp loc = .ok (some .directory) ↔ loc = [] ∨ fs.entries loc = some .directory := by
  rw [lookUp_eq fs h]
  by_cases hl : loc = []
  · simp [hl]
  · simp [hl]

theorem Extends.lookUp (hx : fs.Extends fs') (h : fs.lookUp loc = .ok (some e)) :
    fs'.lookUp loc = .ok (some e) := by
  have he := (lookUp_eq fs h).symm.trans h
  rw [lookUp_eq fs' h]
  split at he
  · next hl =>
    rw [if_pos hl]
    exact he
  · next hl => rw [if_neg hl, hx.entries loc e (Except.ok.inj he)]

theorem walk_cons : fs.walk here (name :: names) = .ok loc ↔
    fs.lookUp here = .ok (some .directory) ∧ fs.walk (follow here name) names = .ok loc := by
  rw [walk, bind_eq_ok]
  constructor
  · rintro ⟨e, he, hw⟩
    split at hw
    · cases hw
    · cases hw
    · exact ⟨he, hw⟩
  · rintro ⟨he, hw⟩
    exact ⟨_, he, hw⟩

theorem walk_mono
    (hd : ∀ l, fs.lookUp l = .ok (some .directory) → fs'.lookUp l = .ok (some .directory))
    (h : fs.walk here names = .ok loc) : fs'.walk here names = .ok loc := by
  induction names generalizing here with
  | nil => exact h
  | cons name names ih =>
    obtain ⟨he, hw⟩ := walk_cons.1 h
    exact walk_cons.2 ⟨hd _ he, ih hw⟩

/-- Where a path begins. -/
def origin (fs : FileSystem) (p : Path) : Location :=
  if p.isAbsolute then [] else fs.workingDirectory

theorem locate_eq_ok : fs.locate p = .ok loc ↔
    p.fault? = none ∧ fs.walk (fs.origin p) p.names = .ok loc := by
  unfold locate
  cases p.fault? with
  | none => simp [origin]
  | some e => simp

theorem locate_mono (hw : fs'.workingDirectory = fs.workingDirectory)
    (hd : ∀ l, fs.lookUp l = .ok (some .directory) → fs'.lookUp l = .ok (some .directory))
    (h : fs.locate p = .ok loc) : fs'.locate p = .ok loc := by
  obtain ⟨hf, h⟩ := locate_eq_ok.1 h
  refine locate_eq_ok.2 ⟨hf, ?_⟩
  rw [origin, hw]
  exact walk_mono hd h

theorem Extends.locate (hx : fs.Extends fs') (h : fs.locate p = .ok loc) :
    fs'.locate p = .ok loc :=
  locate_mono hx.workingDirectory (fun _ => hx.lookUp) h

theorem stat_eq_ok : fs.stat p = .ok e ↔ ∃ loc, fs.locate p = .ok loc ∧
    fs.lookUp loc = .ok (some e) ∧ (p.endsInSlash → e = .directory) := by
  rw [stat, bind_eq_ok]
  constructor
  · rintro ⟨loc, hl, h⟩
    obtain ⟨x, he, h⟩ := bind_eq_ok.1 h
    split at h
    · cases h
    · split at h
      · cases h
      · next hs =>
        cases h
        exact ⟨loc, hl, he, fun h => (hs h).elim⟩
    · cases h
      exact ⟨loc, hl, he, fun _ => rfl⟩
  · rintro ⟨loc, hl, he, hs⟩
    refine ⟨loc, hl, bind_eq_ok.2 ⟨_, he, ?_⟩⟩
    cases e with
    | file f =>
      have hs : ¬ p.endsInSlash := fun h => nomatch hs h
      simp only [if_neg hs]
      rfl
    | directory => rfl

theorem Extends.stat (hx : fs.Extends fs') (h : fs.stat p = .ok e) : fs'.stat p = .ok e := by
  obtain ⟨loc, hl, he, hs⟩ := stat_eq_ok.1 h
  exact stat_eq_ok.2 ⟨loc, hx.locate hl, hx.lookUp he, hs⟩

theorem existsAt_iff : fs.existsAt p ↔ ∃ e, fs.stat p = .ok e := by
  unfold existsAt
  cases fs.stat p with
  | error e => exact ⟨nofun, nofun⟩
  | ok e => exact ⟨fun _ => ⟨e, rfl⟩, fun _ => rfl⟩

theorem Extends.existsAt (hx : fs.Extends fs') (h : fs.existsAt p) : fs'.existsAt p := by
  obtain ⟨e, he⟩ := existsAt_iff.1 h
  exact existsAt_iff.2 ⟨e, hx.stat he⟩

/-- What is found at a path is found as long as nothing is taken away. -/
theorem Extends.readText (hx : fs.Extends fs') (h : fs.existsAt p) :
    fs'.readText p = fs.readText p := by
  obtain ⟨e, he⟩ := existsAt_iff.1 h
  simp only [FileSystem.readText, read, he, hx.stat he]

theorem readText_of_stat (h : fs.stat p = .ok (.file f)) (hb : f.bytes = Utf8.encode text) :
    fs.readText p = .ok text := by
  have hr : fs.read p = .ok f.bytes := by
    simp only [read, h]
    rfl
  simp only [FileSystem.readText, hr, hb, bind, Except.bind, Utf8.decode?_encode]
  rfl

theorem entries_put (fs : FileSystem) (loc : Location) (e : Entry) (other : Location) :
    (fs.put loc e).entries other = if other = loc then some e else fs.entries other := rfl

theorem put_put : (fs.put loc e).put loc e' = fs.put loc e' := by
  ext1
  · funext other
    simp only [entries_put]
    split
    · rfl
    · rfl
  · rfl

theorem lookUp_put_self (h : fs.lookUp loc = .ok x) (hl : loc ≠ []) :
    (fs.put loc e).lookUp loc = .ok (some e) :=
  lookUp_of_entries h hl (if_pos rfl)

theorem lookUp_put_of_ne (h : other ≠ loc) : (fs.put loc e).lookUp other = fs.lookUp other := by
  simp only [lookUp, entries_put, if_neg h]

theorem extends_put (h : fs.entries loc = none) : fs.Extends (fs.put loc e) := by
  refine ⟨rfl, ?_⟩
  intro other e' he
  rw [entries_put, if_neg]
  · exact he
  · rintro rfl
    cases h.symm.trans he

/-- What is put in the place of no directory is in nobody's way. -/
theorem locate_put (h : fs.locate p = .ok loc')
    (hn : fs.lookUp loc ≠ .ok (some .directory)) : (fs.put loc e).locate p = .ok loc' := by
  have hw : (fs.put loc e).workingDirectory = fs.workingDirectory := rfl
  refine locate_mono hw ?_ h
  intro l hl
  rw [lookUp_put_of_ne]
  · exact hl
  · rintro rfl
    exact hn hl

end

/-- No name of the path leads upwards. -/
def Descends (p : Path) : Prop := ".." ∉ p.names

instance (p : Path) : Decidable (Descends p) := inferInstanceAs (Decidable (".." ∉ p.names))

/-- The names of a path that lead somewhere else. -/
def steps (names : List String) : List String := names.filter (· ≠ ".")

/-- Directories are made, each at the end of one of some paths. -/
inductive Makes (paths : List Path) : FileSystem → FileSystem → Prop
  | refl : Makes paths fs fs
  | step (hp : p ∈ paths) (hm : fs.makeDirectory p = .ok fs₁) (h : Makes paths fs₁ fs') :
      Makes paths fs fs'

section
variable {fs fs' : FileSystem} {here loc : Location} {names : List String} {e : Entry} {p : Path}
  {f : File} {paths : List Path}

theorem follow_eq (h : name ≠ "..") : follow here name = here ++ steps [name] := by
  unfold follow steps
  by_cases hn : name = "."
  · simp [hn]
  · simp [hn, h]

theorem steps_cons (name : String) (names : List String) :
    steps (name :: names) = steps [name] ++ steps names :=
  List.filter_append [name] names

theorem walk_eq (hp : ".." ∉ names) (h : fs.walk here names = .ok loc) :
    loc = here ++ steps names := by
  induction names generalizing here with
  | nil =>
    cases h
    exact (List.append_nil loc).symm
  | cons name names ih =>
    rw [List.mem_cons, not_or] at hp
    obtain ⟨hn, hp⟩ := hp
    obtain ⟨-, hw⟩ := walk_cons.1 h
    rw [ih hp hw, follow_eq (Ne.symm hn), steps_cons name names, List.append_assoc]

/-- A way that only leads downwards depends on nothing but the directories above its end. -/
theorem walk_within (hp : ".." ∉ names)
    (hd : ∀ l, l <+: loc → fs'.lookUp l = .ok (some .directory) →
      fs.lookUp l = .ok (some .directory))
    (h : fs'.walk here names = .ok loc) : fs.walk here names = .ok loc := by
  induction names generalizing here with
  | nil => exact h
  | cons name names ih =>
    have hprefix : here <+: loc := ⟨_, (walk_eq hp h).symm⟩
    rw [List.mem_cons, not_or] at hp
    obtain ⟨he, hw⟩ := walk_cons.1 h
    exact walk_cons.2 ⟨hd here hprefix he, ih hp.2 hw⟩

/-- A way ends where it begins, or in a directory. -/
theorem walk_parent (hp : ".." ∉ names) (h : fs.walk here names = .ok loc) :
    loc = here ∨ loc ≠ [] ∧ fs.lookUp loc.dropLast = .ok (some .directory) := by
  induction names generalizing here with
  | nil =>
    cases h
    exact .inl rfl
  | cons name names ih =>
    rw [List.mem_cons, not_or] at hp
    obtain ⟨hn, hp⟩ := hp
    obtain ⟨he, hw⟩ := walk_cons.1 h
    rcases ih hp hw with rfl | hr
    · unfold follow
      by_cases hdot : name = "."
      · rw [if_pos hdot]
        exact .inl rfl
      · rw [if_neg hdot, if_neg (Ne.symm hn), List.dropLast_concat]
        exact .inr ⟨List.concat_ne_nil _ _, he⟩
    · exact .inr hr

theorem locate_parent (hp : Descends p) (h : fs.locate p = .ok loc)
    (hn : fs.lookUp loc = .ok none) : fs.lookUp loc.dropLast = .ok (some .directory) := by
  obtain ⟨hf, hw⟩ := locate_eq_ok.1 h
  rcases walk_parent hp hw with hl | ⟨-, hr⟩
  · cases hs : p.names with
    | nil =>
      have ht : p.text ≠ "" := by
        rintro ht
        simp [Path.fault?, ht] at hf
      rw [hs, origin, if_pos (Path.isAbsolute_of_names_eq_nil hs ht)] at hw
      cases hw
      exact ((lookUp_eq_none hn).1 rfl).elim
    | cons name names =>
      rw [hs] at hw
      obtain ⟨he, -⟩ := walk_cons.1 hw
      rw [hl, he] at hn
      cases hn
  · exact hr

theorem IsTree.directory (ht : fs.IsTree) (h : fs.entries (above ++ rest) = some e)
    (hr : rest ≠ []) : above = [] ∨ fs.entries above = some .directory := by
  induction rest using List.reverseRecOn generalizing e with
  | nil => exact (hr rfl).elim
  | append_singleton rest name ih =>
    rw [← List.append_assoc] at h
    have hd := ht _ _ (List.concat_ne_nil _ _) h
    rw [List.dropLast_concat] at hd
    by_cases hrest : rest = []
    · rw [hrest, List.append_nil] at hd
      exact hd
    · rcases hd with hd | hd
      · exact (hrest (List.append_eq_nil_iff.1 hd).2).elim
      · exact ih hd hrest

theorem IsTree.put (ht : fs.IsTree) (hn : fs.lookUp loc = .ok none)
    (hd : fs.lookUp loc.dropLast = .ok (some .directory)) : (fs.put loc e).IsTree := by
  obtain ⟨hl, hnone⟩ := lookUp_eq_none hn
  -- The location was empty, so it is not that of a directory in which something stands.
  have hkeep (other : Location) (h : other = [] ∨ fs.entries other = some .directory) :
      other = [] ∨ (fs.put loc e).entries other = some .directory := by
    rw [entries_put]
    split
    · next he =>
      subst he
      rcases h with h | h
      · exact (hl h).elim
      · cases hnone.symm.trans h
    · exact h
  intro other e' ho he
  rw [entries_put] at he
  split at he
  · next heq =>
    subst heq
    exact hkeep _ ((lookUp_eq_directory hd).1 hd)
  · exact hkeep _ (ht other e' ho he)

/-- What stands at the end of a path in a tree can be found, if other directories than those of the
tree do not help to reach it. -/
theorem IsTree.locate (ht : fs.IsTree) (hw : fs'.workingDirectory = fs.workingDirectory)
    (hp : Descends p) (h : fs'.locate p = .ok loc) (he : fs'.lookUp loc = .ok (some (.file f)))
    (hf : fs.entries loc = some (.file f)) : fs.locate p = .ok loc := by
  obtain ⟨hfault, h⟩ := locate_eq_ok.1 h
  refine locate_eq_ok.2 ⟨hfault, ?_⟩
  rw [origin, hw, ← origin] at h
  refine walk_within hp ?_ h
  rintro l ⟨rest, rfl⟩ hl
  by_cases hr : rest = []
  · subst hr
    rw [List.append_nil, hl] at he
    cases he
  · exact (lookUp_eq_directory hl).2 (ht.directory hf hr)

theorem makeDirectory_eq_ok (h : fs.makeDirectory p = .ok fs') :
    ∃ loc, fs.locate p = .ok loc ∧ fs.lookUp loc = .ok none ∧ fs' = fs.put loc .directory := by
  obtain ⟨loc, hl, h⟩ := bind_eq_ok.1 h
  obtain ⟨x, he, h⟩ := bind_eq_ok.1 h
  split at h
  · cases h
  · cases h
    exact ⟨loc, hl, he, rfl⟩

theorem Makes.trans (h : Makes paths fs fs₁) (h' : Makes paths fs₁ fs') : Makes paths fs fs' := by
  induction h with
  | refl => exact h'
  | step hp hm _ ih => exact .step hp hm (ih h')

theorem Makes.mono (h : Makes paths fs fs') (hs : ∀ p ∈ paths, p ∈ more) : Makes more fs fs' := by
  induction h with
  | refl => exact .refl
  | step hp hm _ ih => exact .step (hs _ hp) hm ih

theorem makes_ensureDirectory (hp : p ∈ paths) (fs : FileSystem) :
    Makes paths fs (fs.ensureDirectory p).2 := by
  unfold ensureDirectory
  cases hm : fs.makeDirectory p with
  | ok fs₁ => exact .step hp hm .refl
  | error e => exact .refl

theorem makes_makeDirectories (paths : List Path) (fs : FileSystem) :
    Makes paths fs (makeDirectories paths fs).2 := by
  induction paths generalizing fs with
  | nil => exact .refl
  | cons p above ih =>
    have ha := (ih fs).mono fun q hq => List.mem_cons_of_mem p hq
    unfold makeDirectories
    split
    · generalize makeDirectories above fs = made at ha ⊢
      obtain ⟨result, fs₁⟩ := made
      cases result with
      | error e => exact ha
      | ok _ => exact ha.trans (makes_ensureDirectory List.mem_cons_self fs₁)
    · exact makes_ensureDirectory List.mem_cons_self fs

theorem Makes.extends (h : Makes paths fs fs') : fs.Extends fs' := by
  induction h with
  | refl => exact .refl _
  | step _ hm _ ih =>
    obtain ⟨loc, -, hn, rfl⟩ := makeDirectory_eq_ok hm
    exact (extends_put (lookUp_eq_none hn).2).trans ih

/-- What is new after directories have been made is one of them. -/
theorem Makes.entries (h : Makes paths fs fs') (loc : Location) :
    fs'.entries loc = fs.entries loc ∨ fs.entries loc = none ∧ fs'.entries loc = some .directory ∧
      ∃ p ∈ paths, ∃ fs₁ : FileSystem,
        fs₁.workingDirectory = fs.workingDirectory ∧ fs₁.locate p = .ok loc := by
  induction h with
  | refl => exact .inl rfl
  | @step p _ _ _ hp hm hrest ih =>
    obtain ⟨made, hl, hn, rfl⟩ := makeDirectory_eq_ok hm
    by_cases he : loc = made
    · subst he
      have hd := hrest.extends.entries loc .directory (if_pos rfl)
      exact .inr ⟨(lookUp_eq_none hn).2, hd, p, hp, _, rfl, hl⟩
    · rw [entries_put, if_neg he] at ih
      exact ih

theorem Makes.files (h : Makes paths fs fs') (loc : Location) (f : File) :
    fs'.entries loc = some (.file f) ↔ fs.entries loc = some (.file f) := by
  refine ⟨?_, h.extends.entries loc _⟩
  intro hf
  rcases h.entries loc with he | ⟨-, hd, -⟩
  · rw [← he]
    exact hf
  · cases hf.symm.trans hd

theorem Makes.isTree (h : Makes paths fs fs') (hp : ∀ p ∈ paths, Descends p) (ht : fs.IsTree) :
    fs'.IsTree := by
  induction h with
  | refl => exact ht
  | step hmem hm _ ih =>
    obtain ⟨loc, hl, hn, rfl⟩ := makeDirectory_eq_ok hm
    exact ih (ht.put hn (locate_parent (hp _ hmem) hl hn))

theorem write_eq_ok (h : fs.write p bytes = .ok fs') :
    ∃ loc mode, fs.locate p = .ok loc ∧ p.endsInSlash = false ∧
      (fs.lookUp loc = .ok none ∨ ∃ f, fs.lookUp loc = .ok (some (.file f))) ∧
      fs' = fs.put loc (.file ⟨bytes, mode⟩) := by
  obtain ⟨loc, hl, h⟩ := bind_eq_ok.1 h
  split at h
  · cases h
  · next hs =>
    obtain ⟨x, he, h⟩ := bind_eq_ok.1 h
    split at h
    · cases h
    · next f =>
      cases h
      exact ⟨loc, f.mode, hl, Bool.eq_false_iff.2 hs, .inr ⟨f, he⟩, rfl⟩
    · cases h
      exact ⟨loc, defaultMode, hl, Bool.eq_false_iff.2 hs, .inl he, rfl⟩

/-- A file that has been put where a path leads, in the place of no directory, is found there. -/
theorem stat_put (f : File) (hl : fs.locate p = .ok loc) (hs : p.endsInSlash = false)
    (he : fs.lookUp loc = .ok none ∨ ∃ f, fs.lookUp loc = .ok (some (.file f))) :
    (fs.put loc (.file f)).locate p = .ok loc ∧
      (fs.put loc (.file f)).stat p = .ok (.file f) := by
  obtain ⟨x, hx, hne, hn⟩ : ∃ x, fs.lookUp loc = .ok x ∧ x ≠ some .directory ∧ loc ≠ [] := by
    rcases he with he | ⟨f, he⟩
    · exact ⟨none, he, nofun, (lookUp_eq_none he).1⟩
    · exact ⟨some (.file f), he, nofun, (lookUp_eq_file he).1⟩
  have hl' : (fs.put loc (.file f)).locate p = .ok loc := by
    apply locate_put hl
    rw [hx]
    exact fun h => hne (Except.ok.inj h)
  refine ⟨hl', stat_eq_ok.2 ⟨loc, hl', lookUp_put_self hx hn, ?_⟩⟩
  rw [hs]
  exact nofun

theorem setMode_of_stat (hl : fs.locate p = .ok loc) (h : fs.stat p = .ok (.file f)) :
    fs.setMode p mode = .ok (fs.put loc (.file { f with mode })) := by
  refine bind_eq_ok.2 ⟨loc, hl, ?_⟩
  rw [h]
  rfl

end

end FileSystem

end TokenGate.Os
