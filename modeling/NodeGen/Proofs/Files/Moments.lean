/-
What a write leaves, and what it passes through.

A write that fails leaves the tree with the directories it made and nothing else.
At every moment the entry that the path names is whole: it is the old one, or the
new file with all of its contents.  There are two exceptions, both where nothing was
before.  A path that steps up again, out of a directory which had to be made first, can
find that directory there.  And the name that is drawn for the temporary file can be the
one of the path.
-/
import NodeGen.Proofs.Files.Progress

namespace NodeGen
namespace AtomicWrite

open FileTree

variable {job : Job} {disk : Disk} {p : Progress}

/-! ## The end of a write -/

theorem Unreplaced.discard (h : Unreplaced job disk p) :
    p.discard.tree = (prepared job disk).tree := by
  rcases h with ⟨hnone, htree⟩ | ⟨file, ⟨place, htemp, hdrawn, htree⟩, -⟩
  · rw [Progress.discard, hnone]
    exact htree
  · rw [Progress.discard, htemp]
    show p.disk.tree.remove place = _
    rw [htree, remove_put_of_absent hdrawn.absent]

theorem Finished.discard (h : Finished job disk p) : p.discard = p.disk := by
  rw [Progress.discard, h.1]

/-- A write either puts the new file in place or only makes directories, and it
says which. -/
theorem run_cases (job : Job) (disk : Disk) :
    ((run job disk).1 = .ok () ∧ ∃ dir name mode, ModeFor (reported job disk) mode ∧
      Replaced job (prepared job disk).tree dir name mode (run job disk).2.tree) ∨
    ∃ cause, (run job disk).1 = .error ⟨job.path, cause⟩ ∧
      (run job disk).2.tree = (prepared job disk).tree := by
  have hend : Leads job disk [] (perform job Call.sequence (Progress.start disk)) :=
    Stage.start.perform_all
  rw [run]
  cases h : perform job Call.sequence (Progress.start disk) with
  | mk result p =>
    rw [h] at hend
    cases result with
    | error e => exact .inr ⟨e, rfl, Unreplaced.discard hend⟩
    | ok u =>
      cases hend with
      | finished hdone =>
        refine .inl ⟨rfl, ?_⟩
        obtain ⟨dir, name, mode, hmode, hreplaced⟩ := hdone.2
        refine ⟨dir, name, mode, hmode, ?_⟩
        show Replaced job _ dir name mode p.discard.tree
        rw [hdone.discard]
        exact hreplaced

/-- The calls before this one succeed, and it fails. -/
def FailsAt (job : Job) (calls : List Call) (p : Progress) (call : Call) (e : IoError) : Prop :=
  ∃ before after p₁ p₂, calls = before ++ call :: after ∧
    perform job before p = (.ok (), p₁) ∧ call.perform job p₁ = (.error e, p₂)

theorem perform_error_iff {calls : List Call} {e : IoError} :
    (perform job calls p).1 = .error e ↔ ∃ call, FailsAt job calls p call e := by
  induction calls generalizing p with
  | nil =>
    refine ⟨fun h => (by cases h), ?_⟩
    rintro ⟨call, before, after, p₁, p₂, hsplit, -⟩
    simp at hsplit
  | cons first rest ih =>
    cases hfirst : first.perform job p with
    | mk result q =>
      cases result with
      | error e' =>
        have hperform : perform job (first :: rest) p = (.error e', q) := by
          simp only [perform, hfirst]
        rw [hperform]
        constructor
        · intro h
          cases h
          exact ⟨first, [], rest, p, q, rfl, rfl, hfirst⟩
        · rintro ⟨call, before, after, p₁, p₂, hsplit, hbefore, hcall⟩
          cases before with
          | nil =>
            cases hsplit
            cases hbefore
            rw [hfirst] at hcall
            cases hcall
            rfl
          | cons _ _ =>
            cases hsplit
            simp only [perform, hfirst] at hbefore
            cases hbefore
      | ok u =>
        have hperform (more : List Call) :
            perform job (first :: more) p = perform job more q := by
          simp only [perform, hfirst]
        rw [hperform, ih]
        constructor
        · rintro ⟨call, before, after, p₁, p₂, rfl, hbefore, hcall⟩
          exact ⟨call, first :: before, after, p₁, p₂, rfl, (hperform before).trans hbefore, hcall⟩
        · rintro ⟨call, before, after, p₁, p₂, hsplit, hbefore, hcall⟩
          cases before with
          | nil =>
            cases hsplit
            cases hbefore
            rw [hfirst] at hcall
            cases hcall
          | cons _ before =>
            cases hsplit
            exact ⟨call, before, after, p₁, p₂, rfl, (hperform before).symm.trans hbefore, hcall⟩

/-- A write fails when one of its calls does, for the same cause. -/
theorem run_error_iff {job : Job} {disk : Disk} {w : WriteError} :
    (run job disk).1 = .error w ↔
      ∃ call e, FailsAt job Call.sequence (Progress.start disk) call e ∧ w = ⟨job.path, e⟩ := by
  rw [run]
  cases h : perform job Call.sequence (Progress.start disk) with
  | mk result p =>
    have hiff (e : IoError) : (perform job Call.sequence (Progress.start disk)).1 = .error e ↔
        ∃ call, FailsAt job Call.sequence (Progress.start disk) call e := perform_error_iff
    rw [h] at hiff
    cases result with
    | ok u =>
      refine ⟨fun h => (by cases h), ?_⟩
      rintro ⟨call, e, hfails, -⟩
      cases (hiff e).mpr ⟨call, hfails⟩
    | error e =>
      constructor
      · intro h
        cases h
        obtain ⟨call, hfails⟩ := (hiff e).mp rfl
        exact ⟨call, e, hfails, rfl⟩
      · rintro ⟨call, e', hfails, rfl⟩
        cases (hiff e').mpr ⟨call, hfails⟩
        rfl

theorem prepared_grows (job : Job) (disk : Disk) :
    Grows job.target.directory disk.tree (prepared job disk).tree :=
  disk.ensureDirectory_grows job.target.directory

/-! ## Moments -/

/-- The disk in the course of a write: before it, after each call, and at the end,
when the temporary file of a write that failed is gone. -/
def moments (job : Job) (disk : Disk) : List Disk :=
  disk :: (states job Call.sequence (Progress.start disk)).map Progress.disk ++ [(run job disk).2]

inductive Passed (job : Job) (disk : Disk) : FileTree → Prop
  | before : Passed job disk disk.tree
  | ready : Passed job disk (prepared job disk).tree
  | drafted {t : FileTree} {place : Place} {file : File}
      (h : Drafted disk.labels.head? (prepared job disk).tree place file t)
      (hpart : file.contents <+: Text.encode job.contents) : Passed job disk t
  | replaced {t : FileTree} {dir : Place} {name : String} {mode : Mode}
      (hmode : ModeFor (reported job disk) mode)
      (h : Replaced job (prepared job disk).tree dir name mode t) : Passed job disk t

theorem passed_of_state (h : Unreplaced job disk p ∨ Finished job disk p) :
    Passed job disk p.disk.tree := by
  rcases h with (⟨-, htree⟩ | ⟨file, ⟨place, -, hdraft⟩, hpart⟩) |
    ⟨-, dir, name, mode, hmode, hreplaced⟩
  · rw [htree]
    exact .ready
  · exact .drafted hdraft hpart
  · exact .replaced hmode hreplaced

theorem passed_of_moment {d : Disk} (hd : d ∈ moments job disk) : Passed job disk d.tree := by
  rw [moments, List.cons_append, List.mem_cons, List.mem_append, List.mem_map,
    List.mem_singleton] at hd
  rcases hd with rfl | ⟨q, hq, rfl⟩ | rfl
  · exact .before
  · exact passed_of_state (Stage.start.states q hq)
  · rcases run_cases job disk with ⟨-, dir, name, mode, hmode, hreplaced⟩ | ⟨cause, -, htree⟩
    · exact .replaced hmode hreplaced
    · rw [htree]
      exact .ready

/-- At every moment the path names no other place than it does once the directories
are made. -/
theorem Passed.names {t : FileTree} (h : Passed job disk t) {dir : Place} {name : String}
    (hnames : Names t job.target dir name) :
    Names (prepared job disk).tree job.target dir name := by
  cases h with
  | before => exact (prepared_grows job disk).extends.names hnames
  | ready => exact hnames
  | drafted h =>
    obtain ⟨hdrawn, rfl⟩ := h
    have habsent := hdrawn.absent
    exact (replaces_put (ne_root_of_absent habsent) (by simp [habsent]) _ _).names_before hnames
  | replaced hmode h =>
    rw [h.tree] at hnames
    exact (replaces_put (append_ne_root _ _) h.noDirectory _ _).names_before hnames

/-! ## Whole entries -/

/-- What can be found at a place in the course of a write.  A directory that was
made is found there only if the way of the path steps up again after it, and the
temporary file only if that is the place that was drawn for it. -/
inductive Whole (job : Job) (disk : Disk) (place : Place) : Option Entry → Prop
  | old : Whole job disk place (disk.tree.get? place)
  | new (number : Nat) {mode : Mode} (hmode : ModeFor (reported job disk) mode) :
      Whole job disk place (some (.file number ⟨mode, Text.encode job.contents⟩))
  | made (habsent : disk.tree.get? place = none)
      (hway : OnWay (prepared job disk).tree job.target.directory place)
      (hup : disk.tree.WellFormed → ¬ Steady disk.tree job.target.directory) :
      Whole job disk place (some .directory)
  | drawn (habsent : disk.tree.get? place = none)
      (hdrawn : (prepared job disk).tree.Draws disk.labels.head? place) (number : Nat)
      {file : File} (hpart : file.contents <+: Text.encode job.contents) :
      Whole job disk place (some (.file number file))

theorem whole_prepared {dir : Place} {name : String}
    (hnames : Names (prepared job disk).tree job.target dir name) :
    Whole job disk (dir ++ [name]) ((prepared job disk).tree.get? (dir ++ [name])) := by
  have hgrows := prepared_grows job disk
  cases hold : disk.tree.get? (dir ++ [name]) with
  | some e =>
    rw [hgrows.extends.keeps _ e hold, ← hold]
    exact .old
  | none =>
    by_cases hnew : (prepared job disk).tree.get? (dir ++ [name]) = none
    · rw [hnew, ← hold]
      exact .old
    · obtain ⟨hway, hdir⟩ := hgrows.new hold hnew
      rw [hdir]
      refine .made hold hway fun hw hs => ?_
      rcases hgrows.vacant hnames.toEndsIn hw hs with hsame | hvacant
      · rw [hsame] at hnew
        exact hnew hold
      · exact hnew (hvacant.absent _ _ hnames)

theorem Passed.whole {t : FileTree} (h : Passed job disk t) {dir : Place} {name : String}
    (hnames : Names (prepared job disk).tree job.target dir name) :
    Whole job disk (dir ++ [name]) (t.get? (dir ++ [name])) := by
  cases h with
  | before => exact .old
  | ready => exact whole_prepared hnames
  | @drafted _ place file h hpart =>
    obtain ⟨hdrawn, rfl⟩ := h
    have hroot := ne_root_of_absent hdrawn.absent
    by_cases hsame : dir ++ [name] = place
    · rw [hsame, get?_put_self _ hroot]
      refine .drawn ?_ hdrawn _ hpart
      exact (prepared_grows job disk).extends.absent hdrawn.absent
    · rw [get?_put_ne _ hroot _ hsame]
      exact whole_prepared hnames
  | @replaced _ dir' name' mode hmode h =>
    obtain ⟨rfl, rfl⟩ := h.names.unique hnames
    rw [h.tree, get?_put_self _ (append_ne_root _ _)]
    exact .new _ hmode

/-- Nothing happened to a tree but that directories were made on the way of a path. -/
structure OnlyMade (p : Path) (t t' : FileTree) : Prop where
  kept : Extends t t'
  made : ∀ place, t.get? place = none → t'.get? place ≠ none → Made p t' place

/-- A write fails exactly when a call of it does.  It then says which path was not
written, every entry is as it was, and there is no temporary file.  In the course of
any write, what stands at the place that the path names is whole, but for a directory
or a temporary file that was made there. -/
theorem run_atomic (job : Job) (disk : Disk) :
    (∀ w, (run job disk).1 = .error w ↔
      ∃ call e, FailsAt job Call.sequence (Progress.start disk) call e ∧ w = ⟨job.path, e⟩) ∧
    (∀ call e, FailsAt job Call.sequence (Progress.start disk) call e →
      OnlyMade job.target.directory disk.tree (run job disk).2.tree) ∧
    ∀ named ∈ moments job disk, ∀ dir name, Names named.tree job.target dir name →
      ∀ moment ∈ moments job disk,
        Whole job disk (dir ++ [name]) (moment.tree.get? (dir ++ [name])) := by
  refine ⟨fun w => run_error_iff, fun call e hfails => ?_, ?_⟩
  · have herror : (run job disk).1 = .error ⟨job.path, e⟩ :=
      run_error_iff.mpr ⟨call, e, hfails, rfl⟩
    rcases run_cases job disk with ⟨hok, -⟩ | ⟨cause, -, htree⟩
    · rw [hok] at herror
      cases herror
    · have hgrows := prepared_grows job disk
      rw [htree]
      exact ⟨hgrows.extends, fun _ => hgrows.new⟩
  · intro named hnamed dir name hnames moment hmoment
    exact (passed_of_moment hmoment).whole ((passed_of_moment hnamed).names hnames)

/-- A disk with one file, for its owner alone. -/
def ownersFile : Disk := Disk.sound ⟨[(["f"], .file 0 ⟨0o600, Text.encode "old"⟩)], [], []⟩

def noSpace : IoError := .other "No space left on device (os error 28)"

/-- The same disk with room for one more byte. -/
def fullDisk : Disk := { ownersFile with faults := [none, none, none, some ⟨noSpace, 1⟩] }

/-- The old file survives a write that runs out of space. -/
theorem run_fullDisk :
    (run ⟨"f", "new"⟩ fullDisk).1 = .error ⟨"f", noSpace⟩ ∧
      (run ⟨"f", "new"⟩ fullDisk).2.tree.get? ["f"] =
        some (.file 0 ⟨0o600, Text.encode "old"⟩) ∧
      ∀ moment ∈ moments ⟨"f", "new"⟩ fullDisk,
        Whole ⟨"f", "new"⟩ fullDisk ["f"] (moment.tree.get? ["f"]) := by
  have hfails : FailsAt ⟨"f", "new"⟩ Call.sequence (Progress.start fullDisk) .writeContents
      noSpace :=
    ⟨[.makeDirectories, .readMode, .openTemporary], [.setMode, .sync, .rename], _, _, rfl,
      Prod.ext (by decide +kernel) rfl, Prod.ext (by decide +kernel) rfl⟩
  have hold : fullDisk.tree.get? ["f"] = some (.file 0 ⟨0o600, Text.encode "old"⟩) := by
    decide +kernel
  have hnames : Names fullDisk.tree (Job.target ⟨"f", "new"⟩) [] "f" :=
    resolveTarget_eq_named.mp (by decide +kernel)
  obtain ⟨hresult, hleft, hwhole⟩ := run_atomic ⟨"f", "new"⟩ fullDisk
  exact ⟨(hresult _).mpr ⟨_, _, hfails, rfl⟩, (hleft _ _ hfails).kept.keeps _ _ hold,
    hwhole _ List.mem_cons_self [] "f" hnames⟩

/-- At every moment the path names the old entry, or the new file with all of its contents. -/
def OldOrNew (job : Job) (disk : Disk) : Prop :=
  ∀ moment ∈ moments job disk, ∀ dir name, Names moment.tree job.target dir name →
    moment.tree.get? (dir ++ [name]) = disk.tree.get? (dir ++ [name]) ∨
    ∃ number mode, moment.tree.get? (dir ++ [name]) =
      some (.file number ⟨mode, Text.encode job.contents⟩)

/-- An empty disk, on which a label is in store. -/
def emptyDisk : Disk := ⟨⟨[], [], []⟩, [], ["a"]⟩

/-- The path `n/../n` finds a directory where nothing was, since `n` has to be made
before it can be stepped out of.  The path `.tmpa` finds an empty file there, since the
label `a` is drawn for the temporary file. -/
theorem not_oldOrNew :
    ¬ OldOrNew ⟨"n/../n", "new"⟩ emptyDisk ∧ ¬ OldOrNew ⟨".tmpa", "new"⟩ emptyDisk := by
  constructor
  · intro h
    have hlast := h _ (List.mem_append_right _ List.mem_cons_self) [] "n"
      (resolveTarget_eq_named.mp (by decide +kernel))
    have hdir : (run ⟨"n/../n", "new"⟩ emptyDisk).2.tree.get? ([] ++ ["n"]) =
        some .directory := by decide +kernel
    rw [hdir] at hlast
    rcases hlast with hold | ⟨number, mode, hnew⟩
    · cases hold
    · cases hnew
  · intro h
    have hopened : (⟨⟨[([".tmpa"], .file 0 ⟨0o600, []⟩)], [], []⟩, [], []⟩ : Disk) ∈
        moments ⟨".tmpa", "new"⟩ emptyDisk := by decide +kernel
    rcases h _ hopened [] ".tmpa" (resolveTarget_eq_named.mp (by decide +kernel)) with
      hold | ⟨number, mode, hnew⟩
    · cases hold
    · cases hnew

end AtomicWrite
end NodeGen
