import TokenGate.Proofs.Os.FileSystem
import TokenGate.Proofs.Secret
import TokenGate.SecretFile
/-!
The file of a secret over any number of calls. No file is written to that is there already, and a
secret that has been returned for a path is returned for it from then on.
-/
namespace TokenGate.Secret

open Os (FileSystem Location)
open Os.FileSystem (IsTree Extends Makes Descends)

/-- What a call can do that reads a secret or makes one: read it, or make directories, and store
the fresh secret in them if that can be done. -/
inductive Obtained (fresh : Secret) (path : String) (fs : FileSystem) :
    Except LoadError Secret × FileSystem → Prop
  | loaded (h : fs.existsAt ⟨path⟩) : Obtained fresh path fs (load path fs, fs)
  | failed (h : fs.existsAt ⟨path⟩ = false) (hm : Makes (Os.Path.mk path).ancestors.tail fs fs₁) :
      Obtained fresh path fs (.error e, fs₁)
  | stored (h : fs.existsAt ⟨path⟩ = false) (hm : Makes (Os.Path.mk path).ancestors.tail fs fs₁)
      (hs : fresh.storeAt ⟨path⟩ fs₁ = (.ok (), fs')) : Obtained fresh path fs (.ok fresh, fs')

/-- What is there after a secret has been made: its file, which its owner alone can read, where
nothing was, and directories that were missing on the way. -/
structure Generated (s : Secret) (fs : FileSystem) (loc : Location) (fs' : FileSystem) : Prop where
  missing : fs.entries loc = none
  file : fs'.entries loc = some (.file ⟨Utf8.encode s.toHex, 0o600⟩)
  others : ∀ other, other ≠ loc → fs'.entries other = fs.entries other ∨
    fs.entries other = none ∧ fs'.entries other = some .directory ∧ other <+: loc
  workingDirectory : fs'.workingDirectory = fs.workingDirectory

inductive Call where
  | load (path : String)
  | loadOrGenerate (fresh : Secret) (path : String)

def Call.path : Call → String
  | .load path => path
  | .loadOrGenerate _ path => path

def Call.perform (fs : FileSystem) : Call → Except LoadError Secret × FileSystem
  | .load path => (Secret.load path fs, fs)
  | .loadOrGenerate fresh path => Secret.loadOrGenerate fresh path fs

def afterCalls (fs : FileSystem) (calls : List Call) : FileSystem :=
  calls.foldl (fun fs call => (call.perform fs).2) fs

variable {s fresh : Secret} {path : String} {p : Os.Path} {fs fs' fs₁ : FileSystem}

/-- A secret is stored as a whole or not at all. -/
theorem storeAt_cases (s : Secret) (p : Os.Path) (fs : FileSystem) :
    (∃ e, s.storeAt p fs = (.error e, fs)) ∨ ∃ loc, fs.locate p = .ok loc ∧
      p.endsInSlash = false ∧ (fs.lookUp loc = .ok none ∨ ∃ f, fs.lookUp loc = .ok (some (.file f))) ∧
      s.storeAt p fs = (.ok (), fs.put loc (.file ⟨Utf8.encode s.toHex, fileMode⟩)) := by
  unfold storeAt
  cases hw : fs.write p (Utf8.encode s.toHex) with
  | error e => exact .inl ⟨e, rfl⟩
  | ok fs₁ =>
    obtain ⟨loc, mode, hl, hs, he, rfl⟩ := FileSystem.write_eq_ok hw
    refine .inr ⟨loc, hl, hs, he, ?_⟩
    -- What has just been written is found, and so gets its mode.
    obtain ⟨hl', hstat⟩ := FileSystem.stat_put ⟨Utf8.encode s.toHex, mode⟩ hl hs he
    simp only [FileSystem.setMode_of_stat hl' hstat, FileSystem.put_put]

theorem storeAt_eq_ok (h : s.storeAt p fs = (.ok (), fs')) :
    ∃ loc, fs.locate p = .ok loc ∧ p.endsInSlash = false ∧
      (fs.lookUp loc = .ok none ∨ ∃ f, fs.lookUp loc = .ok (some (.file f))) ∧
      fs' = fs.put loc (.file ⟨Utf8.encode s.toHex, fileMode⟩) := by
  obtain ⟨e, he⟩ | ⟨loc, hl, hs, he, hok⟩ := storeAt_cases s p fs
  · cases h.symm.trans he
  · cases h.symm.trans hok
    exact ⟨loc, hl, hs, he, rfl⟩

theorem load_of_storeAt (h : s.storeAt ⟨path⟩ fs = (.ok (), fs')) :
    fs'.existsAt ⟨path⟩ ∧ load path fs' = .ok s := by
  obtain ⟨loc, hl, hs, he, rfl⟩ := storeAt_eq_ok h
  have hstat := (FileSystem.stat_put ⟨Utf8.encode s.toHex, fileMode⟩ hl hs he).2
  refine ⟨FileSystem.existsAt_iff.2 ⟨_, hstat⟩, ?_⟩
  rw [load, FileSystem.readText_of_stat hstat rfl]
  simp only [parse_toHex]
  rfl

theorem store_cases (s : Secret) (path : String) (fs : FileSystem) :
    ∃ fs₁, Makes (Os.Path.mk path).ancestors.tail fs fs₁ ∧
      ((∃ e, store s path fs = (.error e, fs₁)) ∨
        ∃ fs', s.storeAt ⟨path⟩ fs₁ = (.ok (), fs') ∧ store s path fs = (.ok (), fs')) := by
  have hmade := FileSystem.makes_makeDirectories (Os.Path.mk path).ancestors.tail fs
  unfold store
  generalize FileSystem.makeDirectories (Os.Path.mk path).ancestors.tail fs = made at hmade ⊢
  obtain ⟨result, fs₁⟩ := made
  refine ⟨fs₁, hmade, ?_⟩
  cases result with
  | error cause => exact .inl ⟨_, rfl⟩
  | ok _ =>
    obtain ⟨e, he⟩ | ⟨loc, -, -, -, hok⟩ := storeAt_cases s ⟨path⟩ fs₁
    · exact .inl ⟨_, by simp only [he]; rfl⟩
    · exact .inr ⟨_, hok, by simp only [hok]; rfl⟩

theorem obtained (fresh : Secret) (path : String) (fs : FileSystem) :
    Obtained fresh path fs (loadOrGenerate fresh path fs) := by
  unfold loadOrGenerate
  split
  · next h => exact .loaded h
  · next h =>
    have h := Bool.eq_false_iff.2 h
    obtain ⟨fs₁, hm, ⟨e, he⟩ | ⟨fs', hs, he⟩⟩ := store_cases fresh path fs
    · rw [he]
      exact .failed h hm
    · rw [he]
      exact .stored h hm hs

theorem files_of_error (h : loadOrGenerate fresh path fs = (.error e, fs')) (loc : Location)
    (f : Os.File) : fs'.entries loc = some (.file f) ↔ fs.entries loc = some (.file f) := by
  have ho := obtained fresh path fs
  rw [h] at ho
  generalize hr : (Except.error e, fs') = result at ho
  cases ho with
  | loaded he =>
    obtain ⟨-, rfl⟩ := Prod.mk.inj hr
    rfl
  | failed _ hm =>
    cases hr
    exact hm.files loc f
  | stored => cases hr

theorem load_of_loadOrGenerate (h : loadOrGenerate fresh path fs = (.ok s, fs')) :
    fs'.existsAt ⟨path⟩ ∧ load path fs' = .ok s := by
  have ho := obtained fresh path fs
  rw [h] at ho
  generalize hr : (Except.ok s, fs') = result at ho
  cases ho with
  | loaded he =>
    obtain ⟨hl, rfl⟩ := Prod.mk.inj hr
    exact ⟨he, hl.symm⟩
  | failed => cases hr
  | stored _ _ hs =>
    cases hr
    exact load_of_storeAt hs

theorem descends_of_mem_ancestors (hp : Descends p) (h : q ∈ p.ancestors.tail) : Descends q := by
  intro hq
  exact hp ((Os.Path.ancestors_along (List.mem_of_mem_tail h)).2.subset hq)

theorem endsAt {loc : Location} (hp : Descends p) (h : fs.locate p = .ok loc) :
    loc = fs.origin p ++ FileSystem.steps p.names :=
  FileSystem.walk_eq hp (FileSystem.locate_eq_ok.1 h).2

/-- Where nothing can be found, nothing is lost: a path along which no name leads upwards ends where
nothing was, also after the directories on the way have been made. -/
theorem missing_of_makes {loc : Location} (ht : fs.IsTree) (hp : Descends p)
    (hn : fs.existsAt p = false) (hm : Makes paths fs fs₁) (hl : fs₁.locate p = .ok loc)
    (hs : p.endsInSlash = false)
    (he : fs₁.lookUp loc = .ok none ∨ ∃ f, fs₁.lookUp loc = .ok (some (.file f))) :
    fs₁.lookUp loc = .ok none := by
  rcases he with he | ⟨f, he⟩
  · exact he
  · obtain ⟨hroot, hf⟩ := FileSystem.lookUp_eq_file he
    have hf := (hm.files loc f).1 hf
    have hloc := ht.locate hm.extends.workingDirectory hp hl he hf
    have hstat : fs.stat p = .ok (.file f) := by
      refine FileSystem.stat_eq_ok.2 ⟨loc, hloc, FileSystem.lookUp_of_entries he hroot hf, ?_⟩
      rw [hs]
      exact nofun
    rw [FileSystem.existsAt_iff.2 ⟨_, hstat⟩] at hn
    cases hn

theorem generated (ht : fs.IsTree) (hp : Descends ⟨path⟩) (hn : fs.existsAt ⟨path⟩ = false)
    (hm : Makes (Os.Path.mk path).ancestors.tail fs fs₁) (h : s.storeAt ⟨path⟩ fs₁ = (.ok (), fs')) :
    ∃ loc, fs'.locate ⟨path⟩ = .ok loc ∧ Generated s fs loc fs' ∧ fs'.IsTree := by
  obtain ⟨loc, hl, hs, he, rfl⟩ := storeAt_eq_ok h
  have hnone := missing_of_makes ht hp hn hm hl hs he
  have hentries := (FileSystem.lookUp_eq_none hnone).2
  refine ⟨loc, (FileSystem.stat_put _ hl hs he).1, ⟨?_, if_pos rfl, ?_, ?_⟩, ?_⟩
  · cases hold : fs.entries loc with
    | none => rfl
    | some e => cases hentries.symm.trans (hm.extends.entries loc e hold)
  · intro other ho
    rw [FileSystem.entries_put, if_neg ho]
    rcases hm.entries other with hsame | ⟨hmissing, hd, q, hq, fs₂, hw, hq'⟩
    · exact .inl hsame
    · refine .inr ⟨hmissing, hd, ?_⟩
      obtain ⟨habs, hnames⟩ := Os.Path.ancestors_along (List.mem_of_mem_tail hq)
      rw [endsAt (descends_of_mem_ancestors hp hq) hq', endsAt hp hl, FileSystem.origin,
        FileSystem.origin, habs, hw, hm.extends.workingDirectory]
      exact List.prefix_append_right_inj _ |>.2 (hnames.filter _)
  · exact hm.extends.workingDirectory
  · have ht' := hm.isTree (fun q hq => descends_of_mem_ancestors hp hq) ht
    exact ht'.put hnone (FileSystem.locate_parent hp hl hnone)

theorem Generated.extends {loc : Location} (h : Generated s fs loc fs') : fs.Extends fs' := by
  refine ⟨h.workingDirectory, ?_⟩
  intro other e he
  by_cases ho : other = loc
  · subst ho
    cases h.missing.symm.trans he
  · rcases h.others other ho with hs | ⟨hn, -⟩
    · rw [hs, he]
    · cases hn.symm.trans he

theorem Call.perform_extends (ht : fs.IsTree) (c : Call) (hp : Descends ⟨c.path⟩) :
    fs.Extends (c.perform fs).2 ∧ (c.perform fs).2.IsTree := by
  cases c with
  | load path => exact ⟨.refl fs, ht⟩
  | loadOrGenerate fresh path =>
    have ho := obtained fresh path fs
    simp only [perform]
    generalize Secret.loadOrGenerate fresh path fs = result at ho ⊢
    cases ho with
    | loaded => exact ⟨.refl fs, ht⟩
    | failed _ hm =>
      exact ⟨hm.extends, hm.isTree (fun q hq => descends_of_mem_ancestors hp hq) ht⟩
    | stored hn hm hs =>
      obtain ⟨loc, -, hg, ht'⟩ := generated ht hp hn hm hs
      exact ⟨hg.extends, ht'⟩

theorem afterCalls_extends (ht : fs.IsTree) (calls : List Call)
    (hp : ∀ c ∈ calls, Descends ⟨c.path⟩) :
    fs.Extends (afterCalls fs calls) ∧ (afterCalls fs calls).IsTree := by
  induction calls generalizing fs with
  | nil => exact ⟨.refl fs, ht⟩
  | cons c calls ih =>
    rw [List.forall_mem_cons] at hp
    obtain ⟨hx, ht'⟩ := c.perform_extends ht hp.1
    obtain ⟨hx', ht''⟩ := ih ht' hp.2
    exact ⟨hx.trans hx', ht''⟩

/-- However often secrets are read and made, no file that was there changes. A secret is made only
where nothing was, and once one has been returned for a path it is returned from then on. -/
theorem calls_keep_secrets (ht : fs.IsTree) (calls : List Call)
    (hp : ∀ c ∈ calls, Descends ⟨c.path⟩) :
    let now := afterCalls fs calls
    (∀ loc f, fs.entries loc = some (.file f) → now.entries loc = some (.file f)) ∧
    ∀ fresh path, Descends ⟨path⟩ →
      (now.existsAt ⟨path⟩ → loadOrGenerate fresh path now = (load path now, now)) ∧
      (now.existsAt ⟨path⟩ = false →
        ∀ s next, loadOrGenerate fresh path now = (.ok s, next) →
          s = fresh ∧ load path next = .ok s ∧
            ∃ loc, next.locate ⟨path⟩ = .ok loc ∧ Generated s now loc next) ∧
      (∀ e next, loadOrGenerate fresh path now = (.error e, next) →
        ∀ loc f, next.entries loc = some (.file f) ↔ now.entries loc = some (.file f)) ∧
      (∀ s next more, loadOrGenerate fresh path now = (.ok s, next) →
        (∀ c ∈ more, Descends ⟨c.path⟩) →
        let later := afterCalls next more
        load path later = .ok s ∧ ∀ other, loadOrGenerate other path later = (.ok s, later)) := by
  intro now
  obtain ⟨hx, htree⟩ := afterCalls_extends ht calls hp
  refine ⟨fun loc f => hx.entries loc _, ?_⟩
  intro fresh path hpath
  refine ⟨fun h => if_pos h, ?_, fun _ _ => files_of_error, ?_⟩
  · intro hn s next h
    have ho := obtained fresh path now
    have hload := (load_of_loadOrGenerate h).2
    rw [h] at ho
    generalize hr : (Except.ok s, next) = result at ho
    cases ho with
    | loaded he => cases hn.symm.trans he
    | failed => cases hr
    | stored _ hm hs =>
      cases hr
      obtain ⟨loc, hl, hg, -⟩ := generated htree hpath hn hm hs
      exact ⟨rfl, hload, loc, hl, hg⟩
  · intro s next more h hmore later
    obtain ⟨hexists, hload⟩ := load_of_loadOrGenerate h
    have hnext : next.IsTree := by
      have := (Call.perform_extends htree (.loadOrGenerate fresh path) hpath).2
      rw [Call.perform, h] at this
      exact this
    have hlater := (afterCalls_extends hnext more hmore).1
    have hkept : load path later = .ok s := by
      rw [load, hlater.readText hexists]
      exact hload
    refine ⟨hkept, ?_⟩
    intro other
    rw [loadOrGenerate, if_pos (hlater.existsAt hexists), hkept]

/-- A secret that has been made below a directory that was missing is not made again. -/
theorem calls_keep_secrets_made :
    let fresh : Secret := ⟨List.replicate 32 7, by decide⟩
    let other : Secret := ⟨List.replicate 32 9, by decide⟩
    ∃ next, loadOrGenerate fresh "conf/jwtsecret" {} = (.ok fresh, next) ∧
      load "conf/jwtsecret" next = .ok fresh ∧
      loadOrGenerate other "conf/jwtsecret" next = (.ok fresh, next) := by
  intro fresh other
  have ht : IsTree {} := by
    intro loc e _ he
    cases he
  have hpath : Descends ⟨"conf/jwtsecret"⟩ := by decide
  have hmissing : ({} : FileSystem).existsAt ⟨"conf/jwtsecret"⟩ = false := by decide +kernel
  have hok : (loadOrGenerate fresh "conf/jwtsecret" {}).1.isOk = true := by decide +kernel
  obtain ⟨s, hs⟩ := exists_eq_ok hok
  have hcall : loadOrGenerate fresh "conf/jwtsecret" {} = (.ok s, _) := Prod.ext hs rfl
  obtain ⟨-, hcalls⟩ := calls_keep_secrets ht [] nofun
  obtain ⟨-, hmade, -, hstable⟩ := hcalls fresh "conf/jwtsecret" hpath
  obtain ⟨rfl, hload, -⟩ := hmade hmissing _ _ hcall
  obtain ⟨-, hagain⟩ := hstable _ _ [] hcall nofun
  exact ⟨_, hcall, hload, hagain other⟩

/-- A name that leads upwards can lead to a file that is not found before a directory has been
made. -/
example :
    let fs := FileSystem.put {} ["f"] (.file ⟨[], 0o644⟩)
    let fresh : Secret := ⟨List.replicate 32 7, by decide⟩
    (loadOrGenerate fresh "x/../f" fs).2.entries ["f"] ≠ fs.entries ["f"] := by
  decide +kernel

end TokenGate.Secret
