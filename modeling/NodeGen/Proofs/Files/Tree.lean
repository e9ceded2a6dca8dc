/-
Trees that differ in one entry.

A call changes at most one entry of a tree, and these lemmas say how the tree
before and the tree after compare.  Putting an entry where none was gives a larger
tree, and removing it again gives the first tree back.  Putting a file anywhere
but on a directory gives a tree with a file in the place of what was there.
-/
import NodeGen.Proofs.Files.Walk

namespace NodeGen
namespace FileTree

/-! ## Putting and removing -/

theorem ne_root_of_absent {t : FileTree} {p : Place} (h : t.get? p = none) : p ≠ [] := by
  intro hp
  rw [hp, get?_root] at h
  cases h

theorem append_ne_root (dir : Place) (name : String) : dir ++ [name] ≠ [] := by simp

theorem remove_put (t : FileTree) (p : Place) (e : Entry) : (t.put p e).remove p = t.remove p := by
  simp [put, remove]

theorem put_put (t : FileTree) (p : Place) (e e' : Entry) :
    (t.put p e).put p e' = t.put p e' := by
  simp [put, remove]

theorem remove_of_absent {t : FileTree} {p : Place} (h : t.get? p = none) : t.remove p = t := by
  have hp := ne_root_of_absent h
  have habsent : ∀ x ∈ t.entries, x.1 ≠ p := by
    intro x hx hxp
    simp only [get?, hp, if_false] at h
    have hne := List.lookup_eq_none_iff.mp h x hx
    simp [hxp] at hne
  have hfilter : t.entries.filter (·.1 ≠ p) = t.entries :=
    List.filter_eq_self.mpr fun x hx => by simpa using habsent x hx
  simp only [remove, hfilter]

/-- Taking away what was put where nothing was. -/
theorem remove_put_of_absent {t : FileTree} {p : Place} (h : t.get? p = none) (e : Entry) :
    (t.put p e).remove p = t := by
  rw [remove_put, remove_of_absent h]

theorem get?_put_self (t : FileTree) {p : Place} (hp : p ≠ []) (e : Entry) :
    (t.put p e).get? p = some e := by
  rw [get?_put t hp, if_pos rfl]

theorem get?_put_ne (t : FileTree) {p q : Place} (hp : p ≠ []) (e : Entry) (hq : q ≠ p) :
    (t.put p e).get? q = t.get? q := by
  rw [get?_put t hp, if_neg hq]

theorem editFile_put (t : FileTree) {p : Place} (hp : p ≠ []) (number : Nat) (file : File)
    (edit : File → File) :
    (t.put p (.file number file)).editFile p edit = t.put p (.file number (edit file)) := by
  rw [editFile, get?_put_self t hp]
  exact put_put t p _ _

theorem get?_putDirectory (t : FileTree) {p : Place} (hp : p ≠ []) (q : Place) :
    (t.putDirectory p).get? q = if q = p then some .directory else t.get? q :=
  get?_put t hp .directory q

theorem directoryMode_putDirectory (t : FileTree) {p q : Place} (hq : q ≠ p) :
    (t.putDirectory p).directoryMode q = t.directoryMode q := by
  show (List.lookup q (t.directoryModes.filter (·.1 ≠ p))).getD Mode.newDirectory = _
  rw [lookup_filter_ne, if_neg hq]
  rfl

/-! ## Larger trees -/

theorem extends_put {t : FileTree} {p : Place} (h : t.get? p = none) (e : Entry) :
    Extends t (t.put p e) where
  current := rfl
  keeps q e' he' := by
    have hq : q ≠ p := by
      intro hq
      rw [hq, h] at he'
      cases he'
    rw [get?_put_ne t (ne_root_of_absent h) e hq, he']
  modes _ _ := rfl

theorem extends_putDirectory {t : FileTree} {p : Place} (h : t.get? p = none) :
    Extends t (t.putDirectory p) where
  current := rfl
  keeps := (extends_put h .directory).keeps
  modes q hq := by
    have hne : q ≠ p := by
      intro hqp
      exact hq (hqp ▸ h)
    exact directoryMode_putDirectory t hne

/-! ## A file in another entry's place -/

theorem replaces_put {t : FileTree} {p : Place} (hp : p ≠ []) (h : t.get? p ≠ some .directory)
    (number : Nat) (file : File) : Replaces t (t.put p (.file number file)) p where
  current := rfl
  elsewhere _ hq := get?_put_ne t hp _ hq
  file := ⟨number, file, get?_put_self t hp _⟩
  noDirectory := h

/-! ## File numbers -/

theorem le_foldr_max {n : Nat} {l : List Nat} (h : n ∈ l) : n ≤ l.foldr max 0 := by
  induction l with
  | nil => cases h
  | cons a rest ih =>
    rw [List.foldr_cons]
    rcases List.mem_cons.mp h with rfl | h
    · exact Nat.le_max_left _ _
    · exact Nat.le_trans (ih h) (Nat.le_max_right _ _)

/-- A fresh number is the number of no file, so a file that gets it is linked
nowhere else. -/
theorem freshNumber_unused (t : FileTree) (p : Place) (file : File) :
    t.get? p ≠ some (.file t.freshNumber file) := by
  intro h
  by_cases hp : p = []
  · rw [hp, get?_root] at h
    cases h
  · rw [get?, if_neg hp] at h
    obtain ⟨before, after, hentries, -⟩ := List.lookup_eq_some_iff.mp h
    have hmem : (p, .file t.freshNumber file) ∈ t.entries := by simp [hentries]
    have hle : t.freshNumber + 1 ≤ t.freshNumber :=
      le_foldr_max (List.mem_map.mpr ⟨_, hmem, rfl⟩)
    omega

end FileTree
end NodeGen
