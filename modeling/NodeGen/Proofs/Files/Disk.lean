/-
What calls do to a disk.

A call that succeeds has the effect that it has on the tree, and one that fails has
none.  From that follows what making a directory, opening a temporary file and
renaming one can leave, and that making all the directories of a path only lets the
tree grow.
-/
import NodeGen.Files.Disk
import NodeGen.Proofs.Files.Directories
import NodeGen.Proofs.Result

namespace NodeGen

/-! ## Calls on trees -/

namespace FileTree

variable {t t' : FileTree}

theorem makeDirectory_ok {p : Path} (h : t.makeDirectory p = .ok t') :
    ∃ dir name, Names t p dir name ∧ t.get? (dir ++ [name]) = none ∧
      t' = t.putDirectory (dir ++ [name]) := by
  unfold makeDirectory at h
  cases htarget : t.resolveTarget p with
  | error e => rw [htarget] at h; cases h
  | ok target =>
    rw [htarget] at h
    cases target with
    | step => cases h
    | named dir name =>
      simp only [bind, Except.bind] at h
      cases hget : t.get? (dir ++ [name]) with
      | some e => rw [hget] at h; cases h
      | none =>
        rw [hget] at h
        cases h
        exact ⟨dir, name, resolveTarget_eq_named.mp htarget, hget, rfl⟩

/-- The name that a temporary file gets with the label leads to the place. -/
def Draws (t : FileTree) (label : Option String) (place : Place) : Prop :=
  ∃ dir name, place = dir ++ [name] ∧ t.isDirectoryAt dir = true ∧
    t.unusedName? dir label = some name

theorem Draws.absent {label : Option String} {place : Place} (h : t.Draws label place) :
    t.get? place = none := by
  obtain ⟨dir, name, rfl, -, hname⟩ := h
  simpa using List.find?_some hname

theorem makeTemporary_ok {label : Option String} {found : Found} {place : Place}
    (h : t.makeTemporary label found = .ok (place, t')) :
    t.Draws label place ∧ t' = t.put place (.file t.freshNumber ⟨0o600, []⟩) := by
  cases found with
  | other q => cases h
  | directory parent =>
    rw [makeTemporary] at h
    split at h
    · cases h
    rename_i hdir
    cases hname : t.unusedName? parent label with
    | none => rw [hname] at h; cases h
    | some name =>
      rw [hname] at h
      cases h
      exact ⟨⟨parent, name, rfl, by simpa using hdir, hname⟩, rfl⟩

theorem openTemporary_ok {dir : Path} {label : Option String} {place : Place}
    (h : t.openTemporary dir label = .ok (place, t')) :
    ∃ found, t.makeTemporary label found = .ok (place, t') := by
  have hresolve (h : (t.resolve dir >>= t.makeTemporary label) = .ok (place, t')) :
      ∃ found, t.makeTemporary label found = .ok (place, t') := by
    cases hres : t.resolve dir with
    | error e => rw [hres] at h; cases h
    | ok found => rw [hres] at h; exact ⟨found, h⟩
  unfold openTemporary at h
  split at h
  · cases hcurrent : t.currentDirectory with
    | error e => rw [hcurrent] at h; cases h
    | ok _ => rw [hcurrent] at h; exact hresolve h
  · exact hresolve h

theorem rename_ok {source : Place} {target : Path} (h : t.rename source target = .ok t') :
    ∃ dir name entry, Names t target dir name ∧ t.get? source = some entry ∧
      target.slashed = false ∧ t.get? (dir ++ [name]) ≠ some .directory ∧
      t' = (t.remove source).put (dir ++ [name]) entry := by
  unfold rename at h
  cases htarget : t.resolveTarget target with
  | error e => rw [htarget] at h; cases h
  | ok found =>
    rw [htarget] at h
    cases found with
    | step => cases h
    | named dir name =>
      simp only [bind, Except.bind] at h
      cases hget : t.get? source with
      | none => rw [hget] at h; cases h
      | some entry =>
        simp only [hget] at h
        split at h
        · cases h
        rename_i hslash
        split at h
        · cases h
        rename_i hdir
        cases h
        exact ⟨dir, name, entry, resolveTarget_eq_named.mp htarget, rfl, by simpa using hslash,
          by simpa [isDirectoryAt] using hdir, rfl⟩

end FileTree

/-! ## Calls on disks -/

namespace Disk

open FileTree

variable {α : Type} {d d' : Disk} {act : FileTree → Except IoError (α × FileTree)}

theorem call_ok {a : α} (h : d.call act = (.ok a, d')) : act d.tree = .ok (a, d'.tree) := by
  unfold call at h
  cases hfault : d.fault? with
  | some fault => rw [hfault] at h; cases h
  | none =>
    cases hact : act d.tree with
    | error e => rw [hfault, hact] at h; cases h
    | ok result =>
      rw [hfault, hact] at h
      cases h
      rfl

theorem call_error {e : IoError} (h : d.call act = (.error e, d')) : d'.tree = d.tree := by
  unfold call at h
  cases hfault : d.fault? with
  | some fault => rw [hfault] at h; cases h; rfl
  | none =>
    cases hact : act d.tree with
    | error e => rw [hfault, hact] at h; cases h; rfl
    | ok result => rw [hfault, hact] at h; cases h

theorem call_error_cases {e : IoError} (h : d.call act = (.error e, d')) :
    (∃ fault, some fault ∈ d.faults ∧ fault.error = e) ∨ act d.tree = .error e := by
  unfold call at h
  cases hfault : d.fault? with
  | some fault =>
    rw [hfault] at h
    cases h
    exact .inl ⟨fault, List.mem_of_head? (Option.join_eq_some_iff.mp hfault), rfl⟩
  | none =>
    cases hact : act d.tree with
    | error e => rw [hfault, hact] at h; cases h; exact .inr rfl
    | ok result => rw [hfault, hact] at h; cases h

/-- Only the temporary files take labels. -/
theorem call_labels (d : Disk) (act : FileTree → Except IoError (α × FileTree)) :
    (d.call act).2.labels = d.labels := by
  unfold call
  split
  · rfl
  · split <;> rfl

/-! ## Directories -/

/-- A directory is made where a start of the path asks for one, or nothing happens. -/
theorem makeDirectory_grows (d : Disk) {p : Path} {parts : List Path.Part}
    (hparts : parts <+: p.parts) :
    Grows p d.tree (d.makeDirectory (Path.ofParts p.absolute parts)).2.tree := by
  cases h : d.makeDirectory (Path.ofParts p.absolute parts) with
  | mk result d' =>
    cases result with
    | error e =>
      rw [call_error h]
      exact .refl
    | ok _ =>
      obtain ⟨t, hmake, ht⟩ := map_ok (call_ok h)
      obtain ⟨dir, name, hnames, habsent, hput⟩ := makeDirectory_ok hmake
      obtain rfl : t = d'.tree := congrArg Prod.snd ht
      exact .single ⟨_, ⟨parts, dir, name, hparts, hnames, rfl⟩, habsent, hput⟩

theorem makeRoot_disk (d : Disk) : d.makeRoot.2 = (d.makeDirectory (Path.ofParts true [])).2 := by
  unfold makeRoot
  split <;> rename_i h <;> rw [h]

/-- What every attempt at one directory keeps is kept when all are made. -/
theorem makeDirectories_keeps (p : Path) (Kept : Disk → Disk → Prop) (hrefl : ∀ d, Kept d d)
    (htrans : ∀ d d' d'', Kept d d' → Kept d' d'' → Kept d d'')
    (hmake : ∀ d parts, parts <+: p.parts →
      Kept d (d.makeDirectory (Path.ofParts p.absolute parts)).2)
    {above : List Path.Part} (habove : above.reverse <+: p.parts) (d : Disk) :
    Kept d (makeDirectories p.absolute above d).2 := by
  induction above generalizing d with
  | nil =>
    unfold makeDirectories
    split
    · rename_i habs
      have hroot := hmake d [] List.nil_prefix
      rw [habs] at hroot
      rw [makeRoot_disk]
      exact hroot
    · exact hrefl d
  | cons part above ih =>
    have hup : above.reverse <+: p.parts :=
      .trans (by rw [List.reverse_cons]; exact List.prefix_append _ _) habove
    have hfirst := hmake d _ habove
    cases h : d.makeDirectory (Path.ofParts p.absolute (part :: above).reverse) with
    | mk result d₁ =>
      rw [h] at hfirst
      simp only [makeDirectories, h]
      cases result with
      | ok _ => exact hfirst
      | error e =>
        dsimp only
        split
        · have hmore := htrans _ _ _ hfirst (ih hup d₁)
          cases h' : makeDirectories p.absolute above d₁ with
          | mk result d₂ =>
            rw [h'] at hmore
            cases result with
            | error e => exact hmore
            | ok _ =>
              have hagain := htrans _ _ _ hmore (hmake d₂ _ habove)
              cases h'' : d₂.makeDirectory (Path.ofParts p.absolute (part :: above).reverse) with
              | mk result d₃ =>
                rw [h''] at hagain
                simp only [h'']
                cases result with
                | ok _ => exact hagain
                | error e =>
                  dsimp only
                  split <;> exact hagain
        · split <;> exact hfirst

/-- Making all the directories of a path lets the tree grow, also when it fails. -/
theorem ensureDirectory_grows (d : Disk) (p : Path) :
    Grows p d.tree (d.ensureDirectory p).2.tree :=
  makeDirectories_keeps p (fun d d' => Grows p d.tree d'.tree) (fun _ => .refl)
    (fun _ _ _ h h' => h.trans h') (fun d _ => d.makeDirectory_grows)
    ⟨[], by simp⟩ d

theorem ensureDirectory_labels (d : Disk) (p : Path) : (d.ensureDirectory p).2.labels = d.labels :=
  makeDirectories_keeps p (fun d d' => d'.labels = d.labels) (fun _ => rfl)
    (fun _ _ _ h h' => h'.trans h) (fun d _ _ => d.call_labels _) ⟨[], by simp⟩ d

/-! ## Files -/

theorem mode_tree (d : Disk) (p : Path) : (d.mode p).2.tree = d.tree := by
  cases h : d.mode p with
  | mk result d' =>
    cases result with
    | error e => exact call_error h
    | ok mode =>
      obtain ⟨_, -, hpair⟩ := map_ok (call_ok h)
      exact (congrArg Prod.snd hpair).symm

theorem openTemporary_done {dir : Path} {place : Place}
    (h : d.openTemporary dir = (.ok place, d')) :
    d.tree.Draws d.labels.head? place ∧
      d'.tree = d.tree.put place (.file d.tree.freshNumber ⟨0o600, []⟩) := by
  obtain ⟨found, hmake⟩ := openTemporary_ok (call_ok h)
  exact makeTemporary_ok hmake

theorem openTemporary_failed {dir : Path} {e : IoError}
    (h : d.openTemporary dir = (.error e, d')) : d'.tree = d.tree := by
  have hcall : Disk.call { d with labels := d.labels.tail } _ = (.error e, d') := h
  have hsame := call_error hcall
  exact hsame

/-- A write that fails leaves the first part of the contents. -/
theorem writeAll_tree {place : Place} {bytes : Text.Bytes} {result : Except IoError Unit}
    (h : d.writeAll place bytes = (result, d')) :
    ∃ part, part <+: bytes ∧ d'.tree = d.tree.editFile place (setContents part) ∧
      (result = .ok () → part = bytes) := by
  unfold writeAll at h
  cases hfault : d.fault? with
  | some fault =>
    rw [hfault] at h
    cases h
    exact ⟨_, List.take_prefix _ _, rfl, fun h => by cases h⟩
  | none =>
    rw [hfault] at h
    cases h
    exact ⟨_, List.prefix_rfl, rfl, fun _ => rfl⟩

theorem setMode_ok {place : Place} {mode : Mode} (h : d.setMode place mode = (.ok (), d')) :
    d'.tree = d.tree.editFile place fun file => { file with mode := mode } := by
  exact (congrArg Prod.snd (Except.ok.inj (call_ok h))).symm

theorem sync_tree (d : Disk) : d.sync.2.tree = d.tree := by
  cases h : d.sync with
  | mk result d' =>
    cases result with
    | error e => exact call_error h
    | ok u => exact (congrArg Prod.snd (Except.ok.inj (call_ok h))).symm

theorem rename_done {source : Place} {target : Path}
    (h : d.rename source target = (.ok (), d')) :
    ∃ dir name entry, Names d.tree target dir name ∧ d.tree.get? source = some entry ∧
      target.slashed = false ∧ d.tree.get? (dir ++ [name]) ≠ some .directory ∧
      d'.tree = (d.tree.remove source).put (dir ++ [name]) entry := by
  obtain ⟨t, hrename, hpair⟩ := map_ok (call_ok h)
  obtain rfl : t = d'.tree := congrArg Prod.snd hpair
  exact rename_ok hrename

/-! ## Faults -/

/-- No fault passes for a missing entry. -/
def Honest (d : Disk) : Prop :=
  ∀ fault, some fault ∈ d.faults → fault.error ≠ .system .notFound

theorem Honest.after (h : d.Honest) (t : FileTree) : (d.after t).Honest :=
  fun fault hmem => h fault (List.mem_of_mem_tail hmem)

theorem Honest.call (h : d.Honest) (act : FileTree → Except IoError (α × FileTree)) :
    (d.call act).2.Honest := by
  unfold Disk.call
  split
  · exact h.after _
  · split <;> exact h.after _

theorem Honest.openTemporary (h : d.Honest) (dir : Path) : (d.openTemporary dir).2.Honest := by
  have hlabels : Disk.Honest { d with labels := d.labels.tail } := h
  exact hlabels.call _

theorem Honest.writeAll (h : d.Honest) (place : Place) (bytes : Text.Bytes) :
    (d.writeAll place bytes).2.Honest := by
  unfold Disk.writeAll
  split <;> exact h.after _

theorem Honest.ensureDirectory (h : d.Honest) (p : Path) : (d.ensureDirectory p).2.Honest :=
  makeDirectories_keeps p (fun d d' => d.Honest → d'.Honest) (fun _ => id)
    (fun _ _ _ h h' => h' ∘ h) (fun _ _ _ h => h.call _)
    ⟨[], by simp⟩ d h

theorem mode_ok {p : Path} {mode : Mode} (h : (d.mode p).1 = .ok mode) : d.tree.mode p = .ok mode := by
  obtain ⟨result, d', hcall⟩ : ∃ result d', d.mode p = (result, d') := ⟨_, _, rfl⟩
  rw [hcall] at h
  cases h
  obtain ⟨mode', hmode, hpair⟩ := map_ok (call_ok hcall)
  obtain rfl : mode' = mode := congrArg Prod.fst hpair
  exact hmode

/-- An honest disk reports nothing only where nothing is. -/
theorem Honest.mode_notFound (h : d.Honest) {p : Path}
    (hmode : (d.mode p).1 = .error (.system .notFound)) :
    d.tree.mode p = .error (.system .notFound) := by
  obtain ⟨result, d', hcall⟩ : ∃ result d', d.mode p = (result, d') := ⟨_, _, rfl⟩
  rw [hcall] at hmode
  cases hmode
  rcases call_error_cases hcall with ⟨fault, hmem, herror⟩ | herror
  · exact absurd herror (h fault hmem)
  · exact map_error herror

end Disk
end NodeGen
