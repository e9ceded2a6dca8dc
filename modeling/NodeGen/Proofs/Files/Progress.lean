/-
How far an atomic write has got.

Once the directories are made, a write only ever adds one temporary file, until that
file takes the destination's place.  `Stage` says what holds when certain calls are
still to come, with one lemma for each call that leads from a stage to the next one;
what a whole write leaves, and what it passes through, follows by induction on the
calls.
-/
import NodeGen.Files.AtomicWrite
import NodeGen.Proofs.Files.Disk

namespace NodeGen
namespace AtomicWrite

open FileTree

/-! ## Trees on the way -/

/-- The mode that a report leads to. -/
def ModeFor (reported : Except IoError Mode) (mode : Mode) : Prop :=
  reported = .ok mode ∨ reported = .error (.system .notFound) ∧ mode = Mode.newFile

/-- The disk once the directories of the path are made, or could not be. -/
def prepared (job : Job) (disk : Disk) : Disk :=
  (disk.ensureDirectory job.target.directory).2

/-- The mode that is reported of the path once the directories are made. -/
def reported (job : Job) (disk : Disk) : Except IoError Mode :=
  ((prepared job disk).mode job.target).1

/-- The tree `t` with a temporary file, whose name was drawn with the label. -/
def Drafted (label : Option String) (t : FileTree) (place : Place) (file : File)
    (t' : FileTree) : Prop :=
  t.Draws label place ∧ t' = t.put place (.file t.freshNumber file)

/-- The tree `t` with a new file in place of the one that the path names. -/
structure Replaced (job : Job) (t : FileTree) (dir : Place) (name : String) (mode : Mode)
    (t' : FileTree) : Prop where
  names : Names t job.target dir name
  plain : job.target.slashed = false
  noDirectory : t.get? (dir ++ [name]) ≠ some .directory
  tree : t' = t.put (dir ++ [name])
    (.file t.freshNumber ⟨mode, Text.encode job.contents⟩)

/-! ## Stages -/

variable {job : Job} {disk : Disk} {p p' : Progress}

def Idle (job : Job) (disk : Disk) (p : Progress) : Prop :=
  p.temporary = none ∧ p.disk.tree = (prepared job disk).tree

/-- There is a temporary file with the given mode and contents. -/
def Drafting (job : Job) (disk : Disk) (file : File) (p : Progress) : Prop :=
  ∃ place, p.temporary = some place ∧
    Drafted disk.labels.head? (prepared job disk).tree place file p.disk.tree

/-- A temporary file that there is holds the first part of the contents. -/
def Unreplaced (job : Job) (disk : Disk) (p : Progress) : Prop :=
  Idle job disk p ∨
    ∃ file, Drafting job disk file p ∧ file.contents <+: Text.encode job.contents

def Finished (job : Job) (disk : Disk) (p : Progress) : Prop :=
  p.temporary = none ∧ ∃ dir name mode, ModeFor (reported job disk) mode ∧
    Replaced job (prepared job disk).tree dir name mode p.disk.tree

/-- What holds of a write when the given calls are still to come. -/
inductive Stage (job : Job) (disk : Disk) : List Call → Progress → Prop
  | start : Stage job disk
      [.makeDirectories, .readMode, .openTemporary, .writeContents, .setMode, .sync, .rename]
      (Progress.start disk)
  | prepared {p : Progress} (hidle : p.temporary = none)
      (hdisk : p.disk = AtomicWrite.prepared job disk) (hmode : p.mode = Mode.newFile) :
      Stage job disk [.readMode, .openTemporary, .writeContents, .setMode, .sync, .rename] p
  | modeRead {p : Progress} (hidle : Idle job disk p) (hlabels : p.disk.labels = disk.labels)
      (hmode : ModeFor (reported job disk) p.mode) :
      Stage job disk [.openTemporary, .writeContents, .setMode, .sync, .rename] p
  | opened {p : Progress} (hdraft : Drafting job disk ⟨0o600, []⟩ p)
      (hmode : ModeFor (reported job disk) p.mode) :
      Stage job disk [.writeContents, .setMode, .sync, .rename] p
  | written {p : Progress} (hdraft : Drafting job disk ⟨0o600, Text.encode job.contents⟩ p)
      (hmode : ModeFor (reported job disk) p.mode) :
      Stage job disk [.setMode, .sync, .rename] p
  | complete {p : Progress} (hdraft : Drafting job disk ⟨p.mode, Text.encode job.contents⟩ p)
      (hmode : ModeFor (reported job disk) p.mode) :
      Stage job disk [.sync, .rename] p
  | synced {p : Progress} (hdraft : Drafting job disk ⟨p.mode, Text.encode job.contents⟩ p)
      (hmode : ModeFor (reported job disk) p.mode) :
      Stage job disk [.rename] p
  | finished {p : Progress} (hdone : Finished job disk p) : Stage job disk [] p

/-- After the first call, either nothing was replaced, or the destination was, by
the complete new file. -/
theorem Stage.unreplaced_or {calls : List Call} (h : Stage job disk calls p)
    (hbegun : calls ≠ Call.sequence) : Unreplaced job disk p ∨ Finished job disk p := by
  cases h with
  | start => exact absurd rfl hbegun
  | prepared hidle hdisk hmode => exact .inl (.inl ⟨hidle, by rw [hdisk]⟩)
  | modeRead hidle hlabels hmode => exact .inl (.inl hidle)
  | opened hdraft hmode => exact .inl (.inr ⟨_, hdraft, List.nil_prefix⟩)
  | written hdraft hmode => exact .inl (.inr ⟨_, hdraft, List.prefix_rfl⟩)
  | complete hdraft hmode => exact .inl (.inr ⟨_, hdraft, List.prefix_rfl⟩)
  | synced hdraft hmode => exact .inl (.inr ⟨_, hdraft, List.prefix_rfl⟩)
  | finished hdone => exact .inr hdone

/-- What a call leads to when `rest` comes after it. -/
def Leads (job : Job) (disk : Disk) (rest : List Call) : Except IoError Unit × Progress → Prop
  | (.ok _, p) => Stage job disk rest p
  | (.error _, p) => Unreplaced job disk p

/-! ## Calls -/

theorem onTemporary_eq {place : Place} (h : p.temporary = some place)
    (act : Place → Except IoError Unit × Disk) : p.onTemporary act = p.onDisk (act place) := by
  rw [Progress.onTemporary, h]

theorem leads_makeDirectories (job : Job) (disk : Disk) :
    Leads job disk [.readMode, .openTemporary, .writeContents, .setMode, .sync, .rename]
      ((Progress.start disk).onDisk (disk.ensureDirectory job.target.directory)) := by
  have hprepared : AtomicWrite.prepared job disk =
      (disk.ensureDirectory job.target.directory).2 := rfl
  rw [Progress.onDisk, ← hprepared]
  cases (disk.ensureDirectory job.target.directory).1 with
  | ok u => exact .prepared rfl rfl rfl
  | error e => exact .inl ⟨rfl, rfl⟩

theorem leads_readMode (hidle : p.temporary = none)
    (hdisk : p.disk = AtomicWrite.prepared job disk) (hmode : p.mode = Mode.newFile) :
    Leads job disk [.openTemporary, .writeContents, .setMode, .sync, .rename]
      (readMode job p) := by
  have hreport : reported job disk = (p.disk.mode job.target).1 := by rw [reported, hdisk]
  have htree := p.disk.mode_tree job.target
  have hbase : p.disk.tree = (AtomicWrite.prepared job disk).tree := by rw [hdisk]
  have hlabels : (p.disk.mode job.target).2.labels = disk.labels := by
    rw [hdisk]
    exact (Disk.call_labels _ _).trans (disk.ensureDirectory_labels job.target.directory)
  unfold readMode
  cases h : p.disk.mode job.target with
  | mk result d =>
    rw [h] at hreport htree hlabels
    cases result with
    | ok mode => exact .modeRead ⟨hidle, htree.trans hbase⟩ hlabels (.inl hreport)
    | error e =>
      have hsame : Idle job disk { p with disk := d } := ⟨hidle, htree.trans hbase⟩
      dsimp only
      split
      · rename_i he
        exact .modeRead hsame hlabels (.inr ⟨he ▸ hreport, hmode⟩)
      · exact .inl hsame

theorem leads_openTemporary (hidle : Idle job disk p) (hlabels : p.disk.labels = disk.labels)
    (hmode : ModeFor (reported job disk) p.mode) :
    Leads job disk [.writeContents, .setMode, .sync, .rename]
      (openTemporary job p) := by
  obtain ⟨hnone, htree⟩ := hidle
  unfold openTemporary
  cases h : p.disk.openTemporary job.target.directory with
  | mk result d =>
    cases result with
    | error e => exact .inl ⟨hnone, (Disk.openTemporary_failed h).trans htree⟩
    | ok place =>
      obtain ⟨hdrawn, hput⟩ := Disk.openTemporary_done h
      rw [htree] at hdrawn hput
      rw [hlabels] at hdrawn
      exact .opened ⟨place, rfl, hdrawn, hput⟩ hmode

theorem Drafted.edit {label : Option String} {t t' : FileTree} {place : Place} {file : File}
    (h : Drafted label t place file t') (edit : File → File) :
    Drafted label t place (edit file) (t'.editFile place edit) := by
  obtain ⟨hdrawn, rfl⟩ := h
  exact ⟨hdrawn, editFile_put t (ne_root_of_absent hdrawn.absent) _ _ _⟩

theorem leads_writeContents (hdraft : Drafting job disk ⟨0o600, []⟩ p)
    (hmode : ModeFor (reported job disk) p.mode) :
    Leads job disk [.setMode, .sync, .rename]
      (p.onTemporary fun place => p.disk.writeAll place (Text.encode job.contents)) := by
  obtain ⟨place, htemp, hdrafted⟩ := hdraft
  rw [onTemporary_eq htemp]
  cases h : p.disk.writeAll place (Text.encode job.contents) with
  | mk result d =>
    obtain ⟨part, hpart, htree, hwhole⟩ := Disk.writeAll_tree h
    have hedit := hdrafted.edit (Disk.setContents part)
    rw [← htree] at hedit
    cases result with
    | error e => exact .inr ⟨_, ⟨place, htemp, hedit⟩, hpart⟩
    | ok u =>
      rw [hwhole rfl] at hedit
      exact .written ⟨place, htemp, hedit⟩ hmode

theorem leads_setMode (hdraft : Drafting job disk ⟨0o600, Text.encode job.contents⟩ p)
    (hmode : ModeFor (reported job disk) p.mode) :
    Leads job disk [.sync, .rename] (p.onTemporary fun place => p.disk.setMode place p.mode) := by
  obtain ⟨place, htemp, hdrafted⟩ := hdraft
  rw [onTemporary_eq htemp]
  cases h : p.disk.setMode place p.mode with
  | mk result d =>
    cases result with
    | error e =>
      exact .inr ⟨_, ⟨place, htemp, Disk.call_error h ▸ hdrafted⟩, List.prefix_rfl⟩
    | ok u =>
      have hedit := hdrafted.edit fun file => { file with mode := p.mode }
      rw [← Disk.setMode_ok h] at hedit
      exact .complete ⟨place, htemp, hedit⟩ hmode

theorem leads_sync (hdraft : Drafting job disk ⟨p.mode, Text.encode job.contents⟩ p)
    (hmode : ModeFor (reported job disk) p.mode) :
    Leads job disk [.rename] (p.onTemporary fun _ => p.disk.sync) := by
  obtain ⟨place, htemp, hdrafted⟩ := hdraft
  rw [onTemporary_eq htemp]
  have htree := p.disk.sync_tree
  cases h : p.disk.sync with
  | mk result d =>
    rw [h] at htree
    have hsame : Drafting job disk ⟨p.mode, Text.encode job.contents⟩ { p with disk := d } :=
      ⟨place, htemp, htree ▸ hdrafted⟩
    cases result with
    | error e => exact .inr ⟨_, hsame, List.prefix_rfl⟩
    | ok u => exact .synced hsame hmode

/-- The temporary file in the destination's place is the new file put there, and
the path named that place before there was a temporary file. -/
theorem Drafted.replaced {label : Option String} {t t' t'' : FileTree} {source dir : Place}
    {name : String} {mode : Mode} {entry : Entry}
    (h : Drafted label t source ⟨mode, Text.encode job.contents⟩ t')
    (hnames : Names t' job.target dir name) (hentry : t'.get? source = some entry)
    (hslash : job.target.slashed = false) (hdir : t'.get? (dir ++ [name]) ≠ some .directory)
    (htree : t'' = (t'.remove source).put (dir ++ [name]) entry) :
    Replaced job t dir name mode t'' := by
  obtain ⟨hdrawn, rfl⟩ := h
  have habsent := hdrawn.absent
  have hroot := ne_root_of_absent habsent
  have hreplaces : FileTree.Replaces t _ source :=
    replaces_put hroot (by simp [habsent]) t.freshNumber ⟨mode, Text.encode job.contents⟩
  rw [get?_put_self t hroot] at hentry
  cases hentry
  refine ⟨hreplaces.names_before hnames, hslash, fun hthere => hdir ?_, ?_⟩
  · have hkept := hreplaces.isDirectoryAt (dir ++ [name])
    rw [isDirectoryAt, isDirectoryAt, hthere] at hkept
    exact of_decide_eq_true hkept
  · rw [htree, remove_put_of_absent habsent]

theorem leads_rename (hdraft : Drafting job disk ⟨p.mode, Text.encode job.contents⟩ p)
    (hmode : ModeFor (reported job disk) p.mode) :
    Leads job disk [] (rename job p) := by
  obtain ⟨place, htemp, hdrafted⟩ := hdraft
  rw [rename, onTemporary_eq htemp]
  cases h : p.disk.rename place job.target with
  | mk result d =>
    cases result with
    | error e =>
      exact .inr ⟨_, ⟨place, htemp, Disk.call_error h ▸ hdrafted⟩, List.prefix_rfl⟩
    | ok u =>
      obtain ⟨dir, name, entry, hnames, hentry, hslash, hdir, htree⟩ := Disk.rename_done h
      exact .finished ⟨rfl, dir, name, p.mode, hmode,
        hdrafted.replaced hnames hentry hslash hdir htree⟩

/-- Every call leads from one stage to the next, or replaces nothing. -/
theorem Stage.perform {call : Call} {rest : List Call} (h : Stage job disk (call :: rest) p) :
    Leads job disk rest (call.perform job p) := by
  cases h with
  | start => exact leads_makeDirectories job disk
  | prepared hidle hdisk hmode => exact leads_readMode hidle hdisk hmode
  | modeRead hidle hlabels hmode => exact leads_openTemporary hidle hlabels hmode
  | opened hdraft hmode => exact leads_writeContents hdraft hmode
  | written hdraft hmode => exact leads_setMode hdraft hmode
  | complete hdraft hmode => exact leads_sync hdraft hmode
  | synced hdraft hmode => exact leads_rename hdraft hmode

theorem Stage.rest_ne {call : Call} {rest : List Call} (h : Stage job disk (call :: rest) p) :
    rest ≠ Call.sequence := by
  cases h <;> decide

/-! ## Whole writes -/

theorem Stage.perform_all {calls : List Call} (h : Stage job disk calls p) :
    Leads job disk [] (AtomicWrite.perform job calls p) := by
  induction calls generalizing p with
  | nil => exact h
  | cons call rest ih =>
    have hcall := h.perform
    rw [AtomicWrite.perform]
    cases hr : call.perform job p with
    | mk result p' =>
      rw [hr] at hcall
      cases result with
      | error e => exact hcall
      | ok u => exact ih hcall

theorem Stage.states {calls : List Call} (h : Stage job disk calls p) :
    ∀ q ∈ AtomicWrite.states job calls p, Unreplaced job disk q ∨ Finished job disk q := by
  induction calls generalizing p with
  | nil => exact fun q hq => by cases hq
  | cons call rest ih =>
    have hcall := h.perform
    intro q hq
    rw [AtomicWrite.states] at hq
    cases hr : call.perform job p with
    | mk result p' =>
      rw [hr] at hcall hq
      cases result with
      | error e =>
        obtain rfl := List.mem_singleton.mp hq
        exact .inl hcall
      | ok u =>
        rcases List.mem_cons.mp hq with rfl | hq
        · exact Stage.unreplaced_or hcall h.rest_ne
        · exact ih hcall q hq

end AtomicWrite
end NodeGen
