/-
A series of writes to different names.

A write leaves every entry alone but the one that it replaces, so what an earlier one
of the series put in place is still there at the end, as long as no later one has the
same name.  The path of the earlier one may have been blocked since.  It then went
through a link, which one of the writes replaced with its file (`LinkLost`).
-/
import NodeGen.Proofs.Files.Joining
import NodeGen.Proofs.Files.Rewrite

namespace NodeGen
namespace AtomicWrite

open FileTree

variable {job : Job} {disk : Disk} {before t t' : FileTree} {dir place : Place}
  {name : String} {mode : Mode}

/-- A write makes directories, and if it succeeds it replaces one entry after that. -/
@[elab_as_elim]
theorem run_tree {P : FileTree → Prop} (job : Job) (disk : Disk)
    (made : P (prepared job disk).tree)
    (replaced : ∀ dir name mode t', Replaced job (prepared job disk).tree dir name mode t' → P t') :
    P (run job disk).2.tree := by
  rcases run_cases job disk with ⟨-, dir, name, mode, -, hreplaced⟩ | ⟨cause, -, htree⟩
  · exact replaced dir name mode _ hreplaced
  · exact htree ▸ made

theorem Replaced.replaces (h : Replaced job t dir name mode t') :
    Replaces t t' (dir ++ [name]) := by
  rw [h.tree]
  exact replaces_put (append_ne_root _ _) h.noDirectory _ _

/-! ## Links -/

/-- Every link of the second tree is one of the first. -/
def NoNewLinks (before t : FileTree) : Prop :=
  ∀ place target, t.get? place = some (.link target) → before.get? place = some (.link target)

theorem NoNewLinks.prepared (h : NoNewLinks before disk.tree) (job : Job) :
    NoNewLinks before (prepared job disk).tree :=
  fun place target hlink => h place target (link_before hlink)

theorem NoNewLinks.run (h : NoNewLinks before disk.tree) (job : Job) :
    NoNewLinks before (run job disk).2.tree := by
  refine run_tree job disk (h.prepared job) fun dir name mode t' hreplaced place target hlink => ?_
  by_cases hplace : place = dir ++ [name]
  · rw [hplace, hreplaced.get?] at hlink
    cases hlink
  · rw [hreplaced.get?_ne hplace] at hlink
    exact h.prepared job place target hlink

/-- A link of the first tree has a file in its place in the second. -/
def LinkLost (before t : FileTree) : Prop :=
  ∃ place target number file, before.get? place = some (.link target) ∧
    t.get? place = some (.file number file)

theorem LinkLost.extends (h : LinkLost before t) (ht : Extends t t') : LinkLost before t' := by
  obtain ⟨place, target, number, file, hlink, hfile⟩ := h
  exact ⟨place, target, number, file, hlink, ht.keeps _ _ hfile⟩

theorem LinkLost.replaced (h : LinkLost before t) (hreplaced : Replaced job t dir name mode t') :
    LinkLost before t' := by
  obtain ⟨place, target, number, file, hlink, hfile⟩ := h
  by_cases hplace : place = dir ++ [name]
  · exact ⟨place, target, _, _, hlink, hplace ▸ hreplaced.get?⟩
  · exact ⟨place, target, number, file, hlink, (hreplaced.get?_ne hplace).trans hfile⟩

/-! ## The current directory -/

theorem current_run (job : Job) (disk : Disk) :
    (run job disk).2.tree.current = disk.tree.current := by
  have hprepared := (prepared_grows job disk).extends.current
  refine run_tree job disk hprepared fun dir name mode t' hreplaced => ?_
  exact hreplaced.replaces.current.trans hprepared

theorem isDirectoryAt_run (h : disk.tree.isDirectoryAt place = true) (job : Job) :
    (run job disk).2.tree.isDirectoryAt place = true := by
  have hprepared := (prepared_grows job disk).extends.isDirectoryAt h
  refine run_tree job disk hprepared fun dir name mode t' hreplaced => ?_
  rwa [hreplaced.replaces.isDirectoryAt]

theorem currentDirectory_run {base : String} (h : disk.tree.currentDirectory = .ok base)
    (job : Job) : (run job disk).2.tree.currentDirectory = .ok base := by
  rw [currentDirectory] at h ⊢
  rw [current_run]
  split at h <;> rename_i hcurrent
  · rw [if_pos (isDirectoryAt_run hcurrent job), h]
  · cases h

/-- A path that can be made absolute is made the same after a write. -/
theorem absolute_run {path full : String} (h : disk.absolute path = .ok full) (job : Job) :
    (run job disk).2.absolute path = .ok full := by
  rcases Disk.absolute_cases h with ⟨hstart, rfl⟩ | ⟨hrelative, base, hbase, rfl⟩
  · exact if_pos hstart
  · exact Disk.absolute_relative hrelative (currentDirectory_run hbase job)

/-! ## A file among other writes -/

/-- The text of the job is at the place.  The path of the job leads there still, or it is
blocked since a link was lost. -/
structure Stands (before t : FileTree) (job : Job) (dir : Place) (name : String) : Prop where
  ends : EndsIn job.target name
  plain : job.target.slashed = false
  file : ∃ number mode,
    t.get? (dir ++ [name]) = some (.file number ⟨mode, Text.encode job.contents⟩)
  names : Names t job.target dir name ∨
    t.walkToParent job.target = .error .notDirectory ∧ LinkLost before t

theorem Replaced.stands (h : Replaced job t dir name mode t') (hlinks : NoNewLinks before t) :
    Stands before t' job dir name where
  ends := h.names.toEndsIn
  plain := h.plain
  file := ⟨_, _, h.get?⟩
  names := h.names_after.imp_right fun ⟨hblocked, target, hlink⟩ =>
    ⟨hblocked, _, target, _, _, hlinks _ _ hlink, h.get?⟩

theorem Stands.leads (h : Stands before t job dir name) :
    t.resolve job.target = .ok (.other (dir ++ [name])) ∨
      t.resolve job.target = .error (.system .notDirectory) ∧ LinkLost before t := by
  obtain ⟨number, mode, hfile⟩ := h.file
  rcases h.names with hnames | ⟨hblocked, hlost⟩
  · exact .inl (hnames.resolve_file h.plain hfile)
  · exact .inr ⟨h.ends.resolve_error hblocked, hlost⟩

theorem Stands.extends (h : Stands before t job dir name) (ht : Extends t t') :
    Stands before t' job dir name where
  ends := h.ends
  plain := h.plain
  file := h.file.imp fun _ => Exists.imp fun _ hfile => ht.keeps _ _ hfile
  names := h.names.imp ht.names fun ⟨hblocked, hlost⟩ =>
    ⟨by rw [ht.walkToParent (by rw [hblocked]; exact fun h => by cases h), hblocked],
      hlost.extends ht⟩

/-- A file with another name changes nothing about the entry, and can only block the path
by replacing a link on its way. -/
theorem Stands.replaced {other : Job} {dir' : Place} {name' : String}
    (h : Stands before t job dir name) (hlinks : NoNewLinks before t)
    (hreplaced : Replaced other t dir' name' mode t') (hne : name ≠ name') :
    Stands before t' job dir name where
  ends := h.ends
  plain := h.plain
  file := by
    have hplace : dir ++ [name] ≠ dir' ++ [name'] :=
      fun heq => hne (List.singleton_inj.mp (List.append_inj' heq rfl).2)
    rw [hreplaced.get?_ne hplace]
    exact h.file
  names := by
    rcases h.names with hnames | ⟨hblocked, hlost⟩
    · refine (hreplaced.replaces.names_after hnames).imp_right ?_
      rintro ⟨hblocked, target, hlink⟩
      exact ⟨hblocked, _, target, _, _, hlinks _ _ hlink, hreplaced.get?⟩
    · refine .inr ⟨?_, hlost.replaced hreplaced⟩
      rcases hreplaced.replaces.walkToParent job.target with hsame | ⟨herror, -⟩
      · exact hsame.trans hblocked
      · exact herror

theorem Stands.run (h : Stands before disk.tree job dir name) (hlinks : NoNewLinks before disk.tree)
    {other : Job} (hne : job.target.names.getLast? ≠ other.target.names.getLast?) :
    Stands before (run other disk).2.tree job dir name := by
  have hprepared := h.extends (prepared_grows other disk).extends
  refine run_tree other disk hprepared fun dir' name' mode t' hreplaced => ?_
  refine hprepared.replaced (hlinks.prepared other) hreplaced fun heq => hne ?_
  rw [h.ends.last, hreplaced.names.last, heq]

/-! ## The series -/

/-- The disk after the jobs were written one after the other. -/
def afterAll : List Job → Disk → Disk
  | [], disk => disk
  | job :: rest, disk => afterAll rest (run job disk).2

/-- The jobs have different last names. -/
def Distinct (jobs : List Job) : Prop :=
  jobs.Pairwise fun a b => a.target.names.getLast? ≠ b.target.names.getLast?

theorem Stands.afterAll {jobs : List Job} (h : Stands before disk.tree job dir name)
    (hlinks : NoNewLinks before disk.tree)
    (hne : ∀ other ∈ jobs, job.target.names.getLast? ≠ other.target.names.getLast?) :
    Stands before (afterAll jobs disk).tree job dir name := by
  induction jobs generalizing disk with
  | nil => exact h
  | cons other rest ih =>
    obtain ⟨hother, hrest⟩ := List.forall_mem_cons.mp hne
    exact ih (h.run hlinks hother) (hlinks.run other) hrest

def Succeeds (_job : Job) (_disk : Disk) (r : Except WriteError Unit × Disk) : Prop := r.1 = .ok ()

/-- The write succeeds, and at the end of the series its text is at the place that its
path named when its directories were made.  The path leads there still, or it is blocked
since a link was lost. -/
def Lasts (before final : FileTree) (job : Job) (disk : Disk)
    (r : Except WriteError Unit × Disk) : Prop :=
  r.1 = .ok () ∧ ∃ dir name number mode, Names (prepared job disk).tree job.target dir name ∧
    final.get? (dir ++ [name]) = some (.file number ⟨mode, Text.encode job.contents⟩) ∧
    (final.resolve job.target = .ok (.other (dir ++ [name])) ∨
      final.resolve job.target = .error (.system .notDirectory) ∧ LinkLost before final)

theorem everyWrite_lasts {jobs : List Job} (hdistinct : Distinct jobs)
    (hlinks : NoNewLinks before disk.tree) (h : EveryWrite Succeeds jobs disk) :
    EveryWrite (Lasts before (afterAll jobs disk).tree) jobs disk := by
  induction jobs generalizing disk with
  | nil => trivial
  | cons job rest ih =>
    obtain ⟨hne, hrest⟩ := List.pairwise_cons.mp hdistinct
    obtain ⟨hok, hnext⟩ := h
    refine ⟨⟨hok, ?_⟩, ih hrest (hlinks.run job) hnext⟩
    rcases run_cases job disk with ⟨-, dir, name, mode, -, hreplaced⟩ | ⟨cause, herror, -⟩
    · have hstands := (hreplaced.stands (hlinks.prepared job)).afterAll (hlinks.run job) hne
      obtain ⟨number, mode, hfile⟩ := hstands.file
      exact ⟨dir, name, number, mode, hreplaced.names, hfile, hstands.leads⟩
    · have hfailed := hok.symm.trans herror
      cases hfailed

end AtomicWrite
end NodeGen
