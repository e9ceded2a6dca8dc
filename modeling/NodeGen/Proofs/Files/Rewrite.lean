/-
What writes leave, one after the other.

A write that succeeds leaves the new file at the place that its path names and
touches no other entry, so neither the target of a link that stood there nor another
link to the file that was replaced.  Writing to one path again and again finds the
same place and keeps the mode that the path had at first.
-/
import NodeGen.Proofs.Files.Moments

namespace NodeGen
namespace AtomicWrite

open FileTree

variable {job : Job} {disk : Disk}

/-! ## Reports -/

theorem modeFor_tree {p : Path} {mode : Mode} (hd : disk.Honest)
    (h : ModeFor (disk.mode p).1 mode) : ModeFor (disk.tree.mode p) mode :=
  h.imp Disk.mode_ok (And.imp_left hd.mode_notFound)

/-- A mode that is reported when directories were made was reported before, if the
way of the path is steady. -/
theorem modeFor_grows {t t' : FileTree} {p : Path} {name : String} {mode : Mode}
    (hp : EndsIn p name) (hslash : p.slashed = false) (h : Grows p.directory t t')
    (hw : t.WellFormed) (hs : Steady t p.directory) (hmode : ModeFor (t'.mode p) mode) :
    ModeFor (t.mode p) mode := by
  rcases h.mode hp hslash hw hs with hsame | hlong
  · rwa [hsame] at hmode
  · rw [hlong] at hmode
    rcases hmode with h | ⟨h, -⟩ <;> cases h

theorem modeFor_before {mode : Mode} {dir : Place} {name : String} {t' : FileTree}
    (hreplaced : Replaced job (prepared job disk).tree dir name mode t')
    (hmode : ModeFor (reported job disk) mode) (hd : disk.Honest) (hw : disk.tree.WellFormed)
    (hs : Steady disk.tree job.target.directory) : ModeFor (disk.tree.mode job.target) mode :=
  modeFor_grows hreplaced.names.toEndsIn hreplaced.plain (prepared_grows job disk) hw hs
    (modeFor_tree (hd.ensureDirectory job.target.directory) hmode)

/-! ## What every write keeps -/

theorem honest_onTemporary {p : Progress} {act : Place → Except IoError Unit × Disk}
    (h : p.disk.Honest) (hact : ∀ place, (act place).2.Honest) :
    (p.onTemporary act).2.disk.Honest := by
  unfold Progress.onTemporary
  split
  · exact hact _
  · exact h

theorem honest_call (call : Call) {p : Progress} (h : p.disk.Honest) :
    (call.perform job p).2.disk.Honest := by
  cases call with
  | makeDirectories => exact h.ensureDirectory _
  | readMode =>
    have hmode : (p.disk.mode job.target).2.Honest := h.call _
    rw [Call.perform, readMode]
    split <;> rename_i heq <;> rw [heq] at hmode <;> exact hmode
  | openTemporary =>
    have hopen := h.openTemporary job.target.directory
    rw [Call.perform, openTemporary]
    split <;> rename_i heq <;> rw [heq] at hopen <;> exact hopen
  | writeContents => exact honest_onTemporary h fun place => h.writeAll place _
  | setMode => exact honest_onTemporary h fun place => h.call _
  | sync => exact honest_onTemporary h fun place => h.call _
  | rename =>
    have hrename : (p.onTemporary fun place => p.disk.rename place job.target).2.disk.Honest :=
      honest_onTemporary h fun place => h.call _
    rw [Call.perform, AtomicWrite.rename]
    split <;> rename_i heq <;> rw [heq] at hrename <;> exact hrename

theorem honest_perform {calls : List Call} {p : Progress} (h : p.disk.Honest) :
    (perform job calls p).2.disk.Honest := by
  induction calls generalizing p with
  | nil => exact h
  | cons call rest ih =>
    have hcall : (call.perform job p).2.disk.Honest := honest_call call h
    rw [perform]
    split <;> rename_i heq <;> rw [heq] at hcall
    · exact ih hcall
    · exact hcall

theorem honest_discard {p : Progress} (h : p.disk.Honest) : p.discard.Honest := by
  unfold Progress.discard
  split <;> exact h

theorem honest_run (h : disk.Honest) : (run job disk).2.Honest := by
  have hp : (perform job Call.sequence (Progress.start disk)).2.disk.Honest := honest_perform h
  rw [run]
  cases hperform : perform job Call.sequence (Progress.start disk) with
  | mk result p =>
    rw [hperform] at hp
    exact honest_discard hp

theorem wellFormed_run (h : disk.tree.WellFormed) : (run job disk).2.tree.WellFormed := by
  have hprepared := (prepared_grows job disk).wellFormed h
  rcases run_cases job disk with ⟨-, dir, name, mode, -, hreplaced⟩ | ⟨cause, -, htree⟩
  · rw [hreplaced.tree]
    exact hprepared.put hreplaced.names.present fun hdir => absurd hdir hreplaced.noDirectory
  · rw [htree]
    exact hprepared

/-! ## One write -/

/-- The path leads to the place, unless it goes through a link that stood there. -/
def LeadsTo (before t : FileTree) (p : Path) (place : Place) : Prop :=
  t.resolve p = .ok (.other place) ∨
    t.resolve p = .error (.system .notDirectory) ∧
      ∃ target, before.get? place = some (.link target)

structure Wrote (job : Job) (disk disk' : Disk) (dir : Place) (name : String) (mode : Mode) :
    Prop where
  /-- The place is the one that the path names once its directories are made. -/
  names : Names (prepared job disk).tree job.target dir name
  noDirectory : disk.tree.get? (dir ++ [name]) ≠ some .directory
  /-- The file there is a new one and no link to another. -/
  file : ∃ number, disk'.tree.get? (dir ++ [name]) =
      some (.file number ⟨mode, Text.encode job.contents⟩) ∧
    ∀ place file, disk.tree.get? place ≠ some (.file number file)
  leads : LeadsTo disk.tree disk'.tree job.target (dir ++ [name])
  reported : ModeFor (reported job disk) mode
  before : disk.Honest → disk.tree.WellFormed → Steady disk.tree job.target.directory →
    ModeFor (disk.tree.mode job.target) mode
  kept : ∀ place, place ≠ dir ++ [name] → ∀ e, disk.tree.get? place = some e →
    disk'.tree.get? place = some e
  modes : ∀ place, disk.tree.get? place ≠ none →
    disk'.tree.directoryMode place = disk.tree.directoryMode place
  made : ∀ place, place ≠ dir ++ [name] → disk.tree.get? place = none →
    disk'.tree.get? place ≠ none →
    OnWay (prepared job disk).tree job.target.directory place ∧
      disk'.tree.get? place = some .directory

theorem Replaced.names_after {t t' : FileTree} {dir : Place} {name : String} {mode : Mode}
    (h : Replaced job t dir name mode t') :
    Names t' job.target dir name ∨ t'.walkToParent job.target = .error .notDirectory ∧
      ∃ target, t.get? (dir ++ [name]) = some (.link target) := by
  rw [h.tree]
  exact (replaces_put (append_ne_root _ _) h.noDirectory _ _).names_after h.names

theorem Replaced.get? {t t' : FileTree} {dir : Place} {name : String} {mode : Mode}
    (h : Replaced job t dir name mode t') :
    t'.get? (dir ++ [name]) =
      some (.file t.freshNumber ⟨mode, Text.encode job.contents⟩) := by
  rw [h.tree, get?_put_self t (append_ne_root _ _)]

theorem Replaced.get?_ne {t t' : FileTree} {dir place : Place} {name : String} {mode : Mode}
    (h : Replaced job t dir name mode t') (hne : place ≠ dir ++ [name]) :
    t'.get? place = t.get? place := by
  rw [h.tree, get?_put_ne t (append_ne_root _ _) _ hne]

theorem link_before {place : Place} {target : String}
    (h : (prepared job disk).tree.get? place = some (.link target)) :
    disk.tree.get? place = some (.link target) := by
  have hgrows := prepared_grows job disk
  cases hold : disk.tree.get? place with
  | some e =>
    have hkept := hgrows.extends.keeps _ e hold
    rwa [hkept] at h
  | none =>
    obtain ⟨-, hdir⟩ := hgrows.new hold (by simp [h])
    rw [hdir] at h
    cases h

theorem Replaced.wrote {disk' : Disk} {dir : Place} {name : String} {mode : Mode}
    (h : Replaced job (prepared job disk).tree dir name mode disk'.tree)
    (hmode : ModeFor (reported job disk) mode) : Wrote job disk disk' dir name mode := by
  have hgrows := prepared_grows job disk
  have hkeeps := hgrows.extends.keeps
  refine
    { names := h.names
      noDirectory := fun hdir => h.noDirectory (hkeeps _ _ hdir)
      file := ⟨_, h.get?, fun place file hold => ?_⟩
      leads := ?_
      reported := hmode
      before := modeFor_before h hmode
      kept := fun place hne e hold => by rw [h.get?_ne hne, hkeeps _ _ hold]
      modes := fun place hold => ?_
      made := fun place hne hold hnew => ?_ }
  · exact freshNumber_unused _ place file (hkeeps _ _ hold)
  · rcases h.names_after with hnames | ⟨hblocked, target, hlink⟩
    · exact .inl (hnames.resolve_file h.plain h.get?)
    · exact .inr ⟨h.names.toEndsIn.resolve_error hblocked, target, link_before hlink⟩
  · rw [h.tree]
    exact hgrows.extends.modes place hold
  · rw [h.get?_ne hne] at hnew ⊢
    exact hgrows.new hold hnew

/-- A write to a file beside a directory that does not exist yet, by way of that
directory. -/
def steppedUp : Job := ⟨"n/../f", "new"⟩

/-- Nothing is reported of the path before `n` is made, but the file keeps its mode. -/
theorem mode_at_stepped_up_path :
    ¬ ∀ (job : Job) (disk : Disk), (run job disk).1 = .ok () →
      ∃ mode, ModeFor (disk.tree.mode job.target) mode ∧
        (run job disk).2.tree.mode job.target = .ok mode := by
  intro h
  have hok : (run steppedUp ownersFile).1 = .ok () := by decide +kernel
  have hnothing : ownersFile.tree.mode steppedUp.target = .error (.system .notFound) := by decide +kernel
  have hkept : (run steppedUp ownersFile).2.tree.mode steppedUp.target = .ok 0o600 := by decide +kernel
  obtain ⟨mode, hbefore, hafter⟩ := h steppedUp ownersFile hok
  rw [hkept] at hafter
  cases hafter
  rcases hbefore with hreport | ⟨-, hnew⟩
  · rw [hnothing] at hreport
    cases hreport
  · exact absurd hnew (by decide)

/-! ## Sequences of writes -/

/-- What every write of a sequence does, each of which finds what the one before it
left. -/
def EveryWrite (P : Job → Disk → Except WriteError Unit × Disk → Prop) : List Job → Disk → Prop
  | [], _ => True
  | job :: rest, disk => P job disk (run job disk) ∧ EveryWrite P rest (run job disk).2

theorem everyWrite_of_run {P : Job → Disk → Except WriteError Unit × Disk → Prop}
    (h : ∀ job disk, P job disk (run job disk)) (jobs : List Job) (disk : Disk) :
    EveryWrite P jobs disk := by
  induction jobs generalizing disk with
  | nil => trivial
  | cons job rest ih => exact ⟨h job disk, ih _⟩

/-- A write that succeeds replaces one entry, and no write makes the disk worse. -/
def WriteKept (job : Job) (disk : Disk) (after : Except WriteError Unit × Disk) : Prop :=
  (after.1 = .ok () → ∃ dir name mode, Wrote job disk after.2 dir name mode) ∧
    (disk.Honest → after.2.Honest) ∧ (disk.tree.WellFormed → after.2.tree.WellFormed)

theorem run_writeKept (job : Job) (disk : Disk) : WriteKept job disk (run job disk) := by
  refine ⟨fun hok => ?_, honest_run, wellFormed_run⟩
  rcases run_cases job disk with ⟨-, dir, name, mode, hmode, hreplaced⟩ | ⟨cause, herror, -⟩
  · exact ⟨dir, name, mode, hreplaced.wrote hmode⟩
  · rw [herror] at hok
    cases hok

/-- No write changes an entry but the one that its path names. -/
theorem run_changes {job : Job} {disk : Disk} {place : Place} {e : Entry}
    (hbefore : disk.tree.get? place = some e)
    (hafter : (run job disk).2.tree.get? place ≠ some e) :
    ∃ dir name, Names (prepared job disk).tree job.target dir name ∧ place = dir ++ [name] := by
  have hprepared : (prepared job disk).tree.get? place = some e :=
    (prepared_grows job disk).extends.keeps _ e hbefore
  rcases run_cases job disk with ⟨-, dir, name, mode, -, hreplaced⟩ | ⟨cause, -, htree⟩
  · refine ⟨dir, name, hreplaced.names, ?_⟩
    by_contra hne
    exact hafter ((hreplaced.get?_ne hne).trans hprepared)
  · rw [htree] at hafter
    exact absurd hprepared hafter

/-! ## One path again and again -/

/-- Writes texts to one path, one after the other.  Returns those that were written
and what the disk is at the end. -/
def rewrite (path : String) : List String → Disk → List String × Disk
  | [], disk => ([], disk)
  | text :: rest, disk =>
    match run ⟨path, text⟩ disk with
    | (.ok _, disk) => (text :: (rewrite path rest disk).1, (rewrite path rest disk).2)
    | (.error _, disk) => rewrite path rest disk

theorem rewrite_cons_ok {path next : String} (rest : List String)
    (h : (run ⟨path, next⟩ disk).1 = .ok ()) :
    rewrite path (next :: rest) disk =
      (next :: (rewrite path rest (run ⟨path, next⟩ disk).2).1,
        (rewrite path rest (run ⟨path, next⟩ disk).2).2) := by
  rw [rewrite]
  split <;> rename_i hrun <;> rw [hrun] at h ⊢
  cases h

theorem rewrite_cons_error {path next : String} (rest : List String) {e : WriteError}
    (h : (run ⟨path, next⟩ disk).1 = .error e) :
    rewrite path (next :: rest) disk = rewrite path rest (run ⟨path, next⟩ disk).2 := by
  rw [rewrite]
  split <;> rename_i hrun <;> rw [hrun] at h ⊢
  cases h

/-- The place that a path names holds a text that was written there.  Either the
path names it still, or it went through a link that stood there. -/
structure Holds (before t : FileTree) (p : Path) (dir : Place) (name : String) (mode : Mode)
    (text : String) : Prop where
  ends : EndsIn p name
  plain : p.slashed = false
  file : ∃ number, t.get? (dir ++ [name]) = some (.file number ⟨mode, Text.encode text⟩)
  names : Names t p dir name ∨ t.walkToParent p = .error .notDirectory ∧
    ∃ target, before.get? (dir ++ [name]) = some (.link target)

variable {before t t' : FileTree} {path : Path} {dir : Place} {name text : String} {mode : Mode}

theorem Holds.leads (h : Holds before t path dir name mode text) :
    LeadsTo before t path (dir ++ [name]) := by
  obtain ⟨number, hfile⟩ := h.file
  rcases h.names with hnames | ⟨hblocked, hlink⟩
  · exact .inl (hnames.resolve_file h.plain hfile)
  · exact .inr ⟨h.ends.resolve_error hblocked, hlink⟩

theorem Holds.extends (h : Holds before t path dir name mode text) (ht : Extends t t') :
    Holds before t' path dir name mode text where
  ends := h.ends
  plain := h.plain
  file := h.file.imp fun _ hfile => ht.keeps _ _ hfile
  names := h.names.imp ht.names fun ⟨hblocked, hlink⟩ =>
    ⟨by rw [ht.walkToParent (by rw [hblocked]; exact fun h => by cases h), hblocked], hlink⟩

theorem Replaced.holds (h : Replaced job t dir name mode t')
    (hlink : ∀ target, t.get? (dir ++ [name]) = some (.link target) →
      before.get? (dir ++ [name]) = some (.link target)) :
    Holds before t' job.target dir name mode job.contents where
  ends := h.names.toEndsIn
  plain := h.plain
  file := ⟨_, h.get?⟩
  names := h.names_after.imp_right fun ⟨hblocked, target, hthere⟩ =>
    ⟨hblocked, target, hlink target hthere⟩

theorem Holds.place_eq (h : Holds before t path dir name mode text) {dir' : Place}
    {name' : String} (hnames : Names t path dir' name') :
    Names t path dir name ∧ dir' = dir ∧ name' = name := by
  rcases h.names with hnames' | ⟨hblocked, -⟩
  · exact ⟨hnames', hnames'.unique hnames⟩
  · rw [hnames.parent] at hblocked
    cases hblocked

theorem Holds.replaced {path : String} {next : String} {dir' : Place} {name' : String}
    {mode' : Mode}
    (h : Holds before (prepared ⟨path, next⟩ disk).tree (Path.ofText path) dir name mode text)
    (hreplaced : Replaced ⟨path, next⟩ (prepared ⟨path, next⟩ disk).tree dir' name' mode' t')
    (hmode : ModeFor (reported ⟨path, next⟩ disk) mode') :
    Holds before t' (Path.ofText path) dir name mode' next ∧ (disk.Honest → mode' = mode) := by
  obtain ⟨hnames, rfl, rfl⟩ := h.place_eq hreplaced.names
  obtain ⟨number, hfile⟩ := h.file
  refine ⟨hreplaced.holds fun target hthere => ?_, fun hd => ?_⟩
  · rw [hfile] at hthere
    cases hthere
  · have htree := modeFor_tree (hd.ensureDirectory (Job.target ⟨path, next⟩).directory) hmode
    have hmode' : (prepared ⟨path, next⟩ disk).tree.mode (Path.ofText path) = .ok mode :=
      mode_of_file (hnames.resolve_file h.plain hfile) hfile
    rcases htree with hreport | ⟨hreport, -⟩
    · cases hreport.symm.trans hmode'
      rfl
    · cases hreport.symm.trans hmode'

/-- Once the path holds a text it holds the one that was written last, and on an
honest disk it keeps its mode. -/
theorem Holds.rewrite {path : String} (texts : List String)
    (h : Holds before disk.tree (Path.ofText path) dir name mode text) :
    ∃ mode', Holds before (rewrite path texts disk).2.tree (Path.ofText path) dir name mode'
        ((rewrite path texts disk).1.getLast?.getD text) ∧
      (disk.Honest → mode' = mode) := by
  induction texts generalizing disk mode text with
  | nil => exact ⟨mode, h, fun _ => rfl⟩
  | cons next rest ih =>
    -- the directories are made first, which leaves what the path holds alone
    have hprepared := h.extends (prepared_grows ⟨path, next⟩ disk).extends
    have hhonest : disk.Honest → (run ⟨path, next⟩ disk).2.Honest := honest_run
    rcases run_cases ⟨path, next⟩ disk with
      ⟨hok, dir', name', mode₁, hmode, hreplaced⟩ | ⟨cause, herror, htree⟩
    · obtain ⟨hholds, hsame⟩ := hprepared.replaced hreplaced hmode
      obtain ⟨mode', hlast, hkept⟩ := ih hholds
      rw [rewrite_cons_ok rest hok, List.getLast?_cons]
      exact ⟨mode', hlast, fun hd => (hkept (hhonest hd)).trans (hsame hd)⟩
    · obtain ⟨mode', hlast, hkept⟩ := ih (htree ▸ hprepared)
      rw [rewrite_cons_error rest herror]
      exact ⟨mode', hlast, fun hd => hkept (hhonest hd)⟩

theorem Holds.before_prepared (h : Holds (prepared job disk).tree t path dir name mode text) :
    Holds disk.tree t path dir name mode text where
  ends := h.ends
  plain := h.plain
  file := h.file
  names := h.names.imp_right <| And.imp_right <| Exists.imp fun _ => link_before

/-- After any number of writes to one path, the path holds what was written last,
with the mode that it had before the first. -/
theorem rewrite_holds {path : String} {texts : List String} {last : String}
    (h : (rewrite path texts disk).1.getLast? = some last) :
    ∃ dir name mode, Holds disk.tree (rewrite path texts disk).2.tree (Path.ofText path) dir name
        mode last ∧
      (disk.Honest → disk.tree.WellFormed → Steady disk.tree (Path.ofText path).directory →
        ModeFor (disk.tree.mode (Path.ofText path)) mode) := by
  induction texts generalizing disk with
  | nil => cases h
  | cons next rest ih =>
    have hhonest : disk.Honest → (run ⟨path, next⟩ disk).2.Honest := honest_run
    have hwell : disk.tree.WellFormed → (run ⟨path, next⟩ disk).2.tree.WellFormed := wellFormed_run
    have hgrows := prepared_grows ⟨path, next⟩ disk
    rcases run_cases ⟨path, next⟩ disk with
      ⟨hok, dir, name, mode, hmode, hreplaced⟩ | ⟨cause, herror, htree⟩
    · -- the first write that succeeds; the ones after it keep its mode
      have hholds := hreplaced.holds fun target => link_before
      obtain ⟨mode', hlast, hkept⟩ := hholds.rewrite rest
      rw [rewrite_cons_ok rest hok] at h ⊢
      rw [List.getLast?_cons] at h
      rw [Option.some.inj h] at hlast
      refine ⟨dir, name, mode', hlast, fun hd hw hs => ?_⟩
      rw [hkept (hhonest hd)]
      have hbefore := modeFor_before hreplaced hmode hd hw hs
      exact hbefore
    · -- a write that fails may have made directories, but what is reported stays
      rw [rewrite_cons_error rest herror] at h ⊢
      obtain ⟨dir, name, mode, hlast, hreport⟩ := ih h
      rw [htree] at hlast hreport hwell
      refine ⟨dir, name, mode, hlast.before_prepared, fun hd hw hs => ?_⟩
      exact modeFor_grows hlast.ends hlast.plain hgrows hw hs
        (hreport (hhonest hd) (hwell hw) (hs.extends hgrows.extends))

/-- Every write of a sequence that succeeds leaves the new file where its path
leads, with the mode of the old one, and every other entry as it was.  So after any
number of writes to one path, the file there is the one that was written last, and it
has the mode that was reported before the first. -/
theorem everyWrite_replaces (disk : Disk) :
    (∀ jobs, EveryWrite WriteKept jobs disk) ∧
    ∀ path texts last, (rewrite path texts disk).1.getLast? = some last →
      ∃ place mode number,
        (rewrite path texts disk).2.tree.get? place =
          some (.file number ⟨mode, Text.encode last⟩) ∧
        LeadsTo disk.tree (rewrite path texts disk).2.tree (Path.ofText path) place ∧
        (disk.Honest → disk.tree.WellFormed → Steady disk.tree (Path.ofText path).directory →
          ModeFor (disk.tree.mode (Path.ofText path)) mode) := by
  refine ⟨fun jobs => everyWrite_of_run run_writeKept jobs disk, fun path texts last h => ?_⟩
  obtain ⟨dir, name, mode, hholds, hmode⟩ := rewrite_holds h
  obtain ⟨number, hfile⟩ := hholds.file
  exact ⟨dir ++ [name], mode, number, hfile, hholds.leads, hmode⟩

theorem honest_sound (t : FileTree) : (Disk.sound t).Honest := fun _ h => by cases h

theorem wellFormed_ownersFile : ownersFile.tree.WellFormed := by
  intro dir name h
  by_cases hplace : dir ++ [name] = [] ++ ["f"]
  · rw [(List.append_inj' hplace rfl).1]
    exact ownersFile.tree.isDirectoryAt_root
  · refine absurd ?_ h
    have hne : (dir ++ [name] == ["f"]) = false := beq_eq_false_iff_ne.mpr hplace
    simp [FileTree.get?, ownersFile, Disk.sound, List.lookup_cons, hne]

/-- A file that only its owner may read stays one through two writes. -/
theorem rewrite_ownersFile : ∃ place number,
    (rewrite "f" ["one", "two"] ownersFile).2.tree.get? place =
      some (.file number ⟨0o600, Text.encode "two"⟩) := by
  have hlast : (rewrite "f" ["one", "two"] ownersFile).1.getLast? = some "two" := by decide +kernel
  have hsteady : Steady ownersFile.tree (Path.ofText "f").directory :=
    ⟨["."], [], [], by decide +kernel, by simp, by decide +kernel⟩
  have hmode : ownersFile.tree.mode (Path.ofText "f") = .ok 0o600 := by decide +kernel
  obtain ⟨place, mode, number, hfile, -, hreport⟩ :=
    (everyWrite_replaces ownersFile).2 "f" ["one", "two"] "two" hlast
  refine ⟨place, number, ?_⟩
  rcases hreport (honest_sound _) wellFormed_ownersFile hsteady with h | ⟨h, -⟩
  · rw [hmode] at h
    cases h
    exact hfile
  · rw [hmode] at h
    cases h

end AtomicWrite
end NodeGen
