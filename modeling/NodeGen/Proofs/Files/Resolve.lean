/-
Where paths lead.

A path names a place when its directory can be walked to and its last part is an
ordinary name; `Names` spells that out.  New entries keep the names that there
are.  A file put in another entry's place keeps them too, unless the walk to the
directory went through a link at that very place.
-/
import Mathlib.Data.List.Basic
import NodeGen.Proofs.Files.Tree

namespace NodeGen
namespace FileTree

/-! ## Naming a place -/

/-- The walk to the directory that a path names its entry in. -/
def walkToParent (t : FileTree) (p : Path) : Except SystemError Found :=
  t.walk true maxLinks (t.startOf p) (p.names.dropLast ++ ["."])

/-- The path is one that calls accept, and its last part is an ordinary name. -/
structure EndsIn (p : Path) (name : String) : Prop where
  valid : pathError? p = none
  last : p.names.getLast? = some name
  ordinary : name ≠ "." ∧ name ≠ ".."

/-- The path names the entry `name` in the directory at `dir`. -/
structure Names (t : FileTree) (p : Path) (dir : Place) (name : String) : Prop
    extends EndsIn p name where
  parent : t.walkToParent p = .ok (.directory dir)
  present : t.isDirectoryAt dir = true
  fits : Text.byteSize name ≤ Path.maxPart

theorem resolveTarget_eq_named {t : FileTree} {p : Path} {dir : Place} {name : String} :
    t.resolveTarget p = .ok (.named dir name) ↔ Names t p dir name := by
  constructor
  · intro h
    rw [resolveTarget] at h
    cases hvalid : pathError? p with
    | some e => rw [hvalid] at h; cases h
    | none =>
      rw [hvalid] at h
      cases hparent : t.walk true maxLinks (t.startOf p) (p.names.dropLast ++ ["."]) with
      | error e => rw [hparent] at h; cases h
      | ok found =>
        rw [hparent] at h
        cases found with
        | other place => cases h
        | directory place =>
          cases hlast : p.names.getLast? with
          | none => rw [hlast] at h; cases h
          | some last =>
            simp only [hlast] at h
            split at h
            · cases h
            rename_i hdots
            split at h
            · cases h
            rename_i hdir
            split at h
            · cases h
            rename_i hsize
            cases h
            simp only [Bool.or_eq_true, decide_eq_true_eq, not_or] at hdots
            exact ⟨⟨hvalid, hlast, hdots⟩, hparent, by simpa using hdir, by omega⟩
  · rintro ⟨⟨hvalid, hlast, hdot, hup⟩, hparent, hdir, hsize⟩
    rw [walkToParent] at hparent
    simp only [resolveTarget, hvalid, hparent, hlast, hdot, hup, hdir]
    simp [Nat.not_lt.mpr hsize]

theorem Names.unique {t : FileTree} {p : Path} {dir dir' : Place} {name name' : String}
    (h : Names t p dir name) (h' : Names t p dir' name') : dir' = dir ∧ name' = name := by
  have hparent := h'.parent
  have hlast := h'.last
  rw [h.parent] at hparent
  rw [h.last] at hlast
  cases hparent
  cases hlast
  exact ⟨rfl, rfl⟩

theorem EndsIn.names_eq {p : Path} {name : String} (h : EndsIn p name) :
    p.names = p.names.dropLast ++ [name] :=
  (List.dropLast_append_getLast? name h.last).symm

theorem EndsIn.names_append {p : Path} {name : String} (h : EndsIn p name) (after : List String) :
    p.names ++ after = p.names.dropLast ++ (name :: after) := by
  conv_lhs => rw [h.names_eq]
  rw [List.append_assoc]
  rfl

/-! ## Other trees -/

theorem startOf_eq {t t' : FileTree} (h : t'.current = t.current) (p : Path) :
    t'.startOf p = t.startOf p := by
  rw [startOf, startOf, h]

theorem Extends.walkToParent {t t' : FileTree} (h : Extends t t') {p : Path}
    (hs : t.Settled (t.walkToParent p)) : t'.walkToParent p = t.walkToParent p := by
  rw [FileTree.walkToParent, startOf_eq h.current]
  exact walk_extends h _ _ _ hs

theorem Extends.names {t t' : FileTree} (h : Extends t t') {p : Path} {dir : Place} {name : String}
    (hn : Names t p dir name) : Names t' p dir name where
  toEndsIn := hn.toEndsIn
  parent := by rw [h.walkToParent (by rw [hn.parent]; trivial), hn.parent]
  present := h.isDirectoryAt hn.present
  fits := hn.fits

theorem Replaces.walkToParent {t t' : FileTree} {place : Place} (h : Replaces t t' place)
    (p : Path) :
    t'.walkToParent p = t.walkToParent p ∨
      t'.walkToParent p = .error .notDirectory ∧
        ((∃ target, t.get? place = some (.link target)) ∨ ∃ e, t.walkToParent p = .error e) := by
  rw [FileTree.walkToParent, startOf_eq h.current]
  exact walk_replaces h _ _ _

/-- A file in the place of another entry gives no path a new name. -/
theorem Replaces.names_before {t t' : FileTree} {place : Place} (h : Replaces t t' place)
    {p : Path} {dir : Place} {name : String} (hn : Names t' p dir name) : Names t p dir name where
  toEndsIn := hn.toEndsIn
  parent := by
    rcases h.walkToParent p with hw | ⟨hw, -⟩
    · rw [← hw, hn.parent]
    · rw [hn.parent] at hw
      cases hw
  present := by rw [← h.isDirectoryAt, hn.present]
  fits := hn.fits

/-- It takes a name away only by blocking a link on the way. -/
theorem Replaces.names_after {t t' : FileTree} {place : Place} (h : Replaces t t' place)
    {p : Path} {dir : Place} {name : String} (hn : Names t p dir name) :
    Names t' p dir name ∨
      t'.walkToParent p = .error .notDirectory ∧ ∃ target, t.get? place = some (.link target) := by
  rcases h.walkToParent p with hw | ⟨hw, hlink | ⟨e, he⟩⟩
  · refine .inl ⟨hn.toEndsIn, by rw [hw, hn.parent], ?_, hn.fits⟩
    rw [h.isDirectoryAt, hn.present]
  · exact .inr ⟨hw, hlink⟩
  · rw [hn.parent] at he
    cases he

/-! ## Following a path to its end -/

theorem resolve_of_walk {t : FileTree} {p : Path} {found : Found} (hvalid : pathError? p = none)
    (h : t.walk true maxLinks (t.startOf p) p.steps = .ok found) : t.resolve p = .ok found := by
  simp only [FileTree.resolve, hvalid, h]

theorem resolve_of_walk_error {t : FileTree} {p : Path} {e : SystemError}
    (hvalid : pathError? p = none)
    (h : t.walk true maxLinks (t.startOf p) p.steps = .error e) :
    t.resolve p = .error (.system e) := by
  simp only [FileTree.resolve, hvalid, h]

theorem steps_eq_names {p : Path} (h : p.slashed = false) : p.steps = p.names := by
  simp [Path.steps, h]

def entryFound (t : FileTree) (place : Place) : Found :=
  if t.isDirectoryAt place then .directory place else .other place

/-- A walk along the path passes through the directory of its entry. -/
theorem Names.walk_through {t : FileTree} {p : Path} {dir : Place} {name : String}
    (h : Names t p dir name) :
    ∃ fewer, ∀ more, more ≠ [] →
      t.walk true maxLinks (t.startOf p) (p.names.dropLast ++ more) =
        t.walk true fewer dir more := by
  have hparent := h.parent
  rw [walkToParent] at hparent
  rcases t.walk_append maxLinks (t.startOf p) p.names.dropLast with ⟨d, fewer, hw⟩ | ⟨e, hw⟩
  · rw [hw _ (by simp), walk_cons, stride_dot] at hparent
    obtain rfl : d = dir := by simpa [afterStride, walk_nil] using hparent
    exact ⟨fewer, hw⟩
  · rw [hw _ (by simp)] at hparent
    cases hparent

theorem Names.stride {t : FileTree} {p : Path} {dir : Place} {name : String}
    (h : Names t p dir name) (last : Bool) :
    t.stride dir name last =
      match t.get? (dir ++ [name]) with
      | some .directory => .go (dir ++ [name])
      | some (.file _ _) =>
        .stop (if last then .ok (.other (dir ++ [name])) else .error .notDirectory)
      | some (.link target) => .follow target
      | none => .stop (if last then .ok (.other (dir ++ [name])) else .error .notFound) := by
  rw [FileTree.stride, if_neg h.ordinary.1, if_neg h.ordinary.2, h.present,
    if_neg (Nat.not_lt.mpr h.fits)]
  rfl

/-- Where a path leads that names an entry: there, if the entry is no link. -/
theorem Names.resolve {t : FileTree} {p : Path} {dir : Place} {name : String}
    (h : Names t p dir name) (hslash : p.slashed = false)
    (hlink : ∀ target, t.get? (dir ++ [name]) ≠ some (.link target)) :
    t.resolve p = .ok (t.entryFound (dir ++ [name])) := by
  obtain ⟨fewer, hw⟩ := h.walk_through
  refine resolve_of_walk h.valid ?_
  rw [steps_eq_names hslash, h.names_eq, hw _ (by simp), walk_cons, h.stride]
  cases hget : t.get? (dir ++ [name]) with
  | none => simp [afterStride, entryFound, FileTree.isDirectoryAt, hget]
  | some e =>
    cases e with
    | directory => simp [afterStride, walk_nil, entryFound, FileTree.isDirectoryAt, hget]
    | file number file => simp [afterStride, entryFound, FileTree.isDirectoryAt, hget]
    | link target => exact absurd hget (hlink target)

theorem EndsIn.resolve_error {t : FileTree} {p : Path} {name : String} {e : SystemError}
    (hp : EndsIn p name) (h : t.walkToParent p = .error e) :
    t.resolve p = .error (.system e) := by
  obtain ⟨more, hmore, hsteps⟩ : ∃ more, more ≠ [] ∧ p.steps = p.names.dropLast ++ more := by
    refine ⟨name :: (if p.slashed && p.parts ≠ [] then ["."] else []), by simp, ?_⟩
    rw [Path.steps]
    conv_lhs => rw [hp.names_eq]
    rw [List.append_assoc]
    rfl
  rw [walkToParent] at h
  rcases t.walk_append maxLinks (t.startOf p) p.names.dropLast with ⟨d, fewer, hw⟩ | ⟨e', hw⟩
  · rw [hw _ (by simp), walk_cons, stride_dot, afterStride, walk_nil] at h
    cases h
  · rw [hw _ (by simp)] at h
    cases h
    exact resolve_of_walk_error hp.valid (by rw [hsteps, hw more hmore])

/-! ## Modes -/

theorem mode_of_resolve_error {t : FileTree} {p : Path} {e : IoError} (h : t.resolve p = .error e) :
    t.mode p = .error e := by
  rw [mode, h]
  rfl

theorem mode_of_file {t : FileTree} {p : Path} {place : Place} {number : Nat} {file : File}
    (h : t.resolve p = .ok (.other place)) (hfile : t.get? place = some (.file number file)) :
    t.mode p = .ok file.mode := by
  simp only [mode, h, bind, Except.bind, hfile]

theorem mode_of_absent {t : FileTree} {p : Path} {place : Place}
    (h : t.resolve p = .ok (.other place)) (habsent : t.get? place = none) :
    t.mode p = .error (.system .notFound) := by
  simp only [mode, h, bind, Except.bind, habsent]

theorem mode_of_directory {t : FileTree} {p : Path} {place : Place}
    (h : t.resolve p = .ok (.directory place)) : t.mode p = .ok (t.directoryMode place) := by
  rw [mode, h]
  rfl

theorem Names.resolve_file {t : FileTree} {p : Path} {dir : Place} {name : String} {number : Nat}
    {file : File} (h : Names t p dir name) (hslash : p.slashed = false)
    (hfile : t.get? (dir ++ [name]) = some (.file number file)) :
    t.resolve p = .ok (.other (dir ++ [name])) := by
  rw [h.resolve hslash (by simp [hfile])]
  simp [entryFound, FileTree.isDirectoryAt, hfile]

end FileTree
end NodeGen
