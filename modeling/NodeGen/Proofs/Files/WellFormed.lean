/-
Well-formed trees.

In a well-formed tree every entry is in a directory, so there is nothing below a
place with no entry.  A walk to a directory ends at one that is there, and a walk
down from a directory with nothing in it finds nothing.
-/
import NodeGen.Proofs.Files.Resolve

namespace NodeGen
namespace FileTree

def WellFormed (t : FileTree) : Prop :=
  ∀ dir name, t.get? (dir ++ [name]) ≠ none → t.isDirectoryAt dir = true

theorem isDirectoryAt_root (t : FileTree) : t.isDirectoryAt [] = true :=
  decide_eq_true t.get?_root

namespace WellFormed

theorem below_absent {t : FileTree} (h : t.WellFormed) {p : Place} (hp : t.get? p = none)
    (name : String) : t.get? (p ++ [name]) = none := by
  by_contra hne
  have hdir := h p name hne
  simp [isDirectoryAt, hp] at hdir

theorem dropLast {t : FileTree} (h : t.WellFormed) {p : Place} (hp : t.isDirectoryAt p = true) :
    t.isDirectoryAt p.dropLast = true := by
  rcases List.eq_nil_or_concat p with rfl | ⟨dir, name, rfl⟩
  · exact hp
  · rw [List.concat_eq_append] at hp ⊢
    rw [List.dropLast_concat]
    refine h dir name ?_
    rw [of_decide_eq_true hp]
    simp

/-- Only a directory may take a directory's place. -/
theorem put {t : FileTree} (h : t.WellFormed) {dir : Place} {name : String} {e : Entry}
    (hdir : t.isDirectoryAt dir = true)
    (he : t.get? (dir ++ [name]) = some .directory → e = .directory) :
    (t.put (dir ++ [name]) e).WellFormed := by
  intro dir' name' hne
  have hroot := append_ne_root dir name
  by_cases hself : dir' = dir ++ [name]
  · rw [get?_put_ne t hroot e (by simp [hself])] at hne
    have hthere : t.get? (dir ++ [name]) = some .directory :=
      of_decide_eq_true (hself ▸ h dir' name' hne)
    rw [isDirectoryAt, hself, get?_put_self t hroot, he hthere]
    rfl
  · have hold : t.isDirectoryAt dir' = true := by
      by_cases hplace : dir' ++ [name'] = dir ++ [name]
      · rw [(List.append_inj' hplace rfl).1]
        exact hdir
      · rw [get?_put_ne t hroot e hplace] at hne
        exact h dir' name' hne
    rw [isDirectoryAt, get?_put_ne t hroot e hself]
    exact hold

theorem putDirectory {t : FileTree} (h : t.WellFormed) {dir : Place} {name : String}
    (hdir : t.isDirectoryAt dir = true) : (t.putDirectory (dir ++ [name])).WellFormed :=
  h.put hdir fun _ => rfl

/-- A walk to a directory ends at one that is there, once it has entered one. -/
theorem walk_directory {t : FileTree} (h : t.WellFormed) {links : Nat} {start place : Place}
    {steps : List String}
    (hstart : t.isDirectoryAt start = true ∨ ∃ step ∈ steps, step ≠ "." ∧ step ≠ "..")
    (hwalk : t.walk true links start steps = .ok (.directory place)) :
    t.isDirectoryAt place = true := by
  induction links, start, steps using walk_induction with
  | nil links start =>
    rw [walk_nil] at hwalk
    cases hwalk
    exact hstart.resolve_right (by simp)
  | cons links start step rest ihGo ihFollow =>
    rw [walk_cons] at hwalk
    cases hst : t.stride start step (rest = []) with
    | stop result =>
      rw [hst] at hwalk
      exact absurd hwalk (stride_stop_ne hst)
    | go next =>
      rw [hst] at hwalk
      refine ihGo next ?_ hwalk
      rcases stride_go hst with ⟨hstep, rfl⟩ | ⟨hstep, rfl⟩ | hnext
      · exact hstart.imp_right fun ⟨s, hs, hne⟩ =>
          ⟨s, (List.mem_cons.mp hs).resolve_left (hne.1 <| ·.trans hstep), hne⟩
      · exact hstart.imp h.dropLast fun ⟨s, hs, hne⟩ =>
          ⟨s, (List.mem_cons.mp hs).resolve_left (hne.2 <| ·.trans hstep), hne⟩
      · exact .inl hnext
    | follow target =>
      rw [hst] at hwalk
      cases links with
      | zero => cases hwalk
      | succ fewer =>
        refine ihFollow fewer _ _ rfl (.inl ?_) hwalk
        split
        · exact t.isDirectoryAt_root
        · exact stride_follow hst

end WellFormed

/-! ## Modes in larger trees -/

/-- What is reported of a path is reported of it in a larger tree, unless it is
that there is nothing. -/
theorem Extends.mode {t t' : FileTree} (h : Extends t t') (hw : t.WellFormed) {p : Path}
    {name : String} (hp : EndsIn p name) (hm : t.mode p ≠ .error (.system .notFound)) :
    t'.mode p = t.mode p := by
  have hstart : ∃ step ∈ p.steps, step ≠ "." ∧ step ≠ ".." := by
    refine ⟨name, ?_, hp.ordinary⟩
    rw [Path.steps, hp.names_eq]
    simp
  have hresolve (hs : t.Settled (t.walk true maxLinks (t.startOf p) p.steps)) :
      t'.resolve p = t.resolve p := by
    simp only [FileTree.resolve, startOf_eq h.current, walk_extends h _ _ _ hs]
  cases hwalk : t.walk true maxLinks (t.startOf p) p.steps with
  | error e =>
    have hres := resolve_of_walk_error hp.valid hwalk
    have he : e ≠ .notFound := by
      rintro rfl
      exact hm (mode_of_resolve_error hres)
    rw [hwalk] at hresolve
    rw [mode_of_resolve_error hres, mode_of_resolve_error ((hresolve he).trans hres)]
  | ok found =>
    have hres := resolve_of_walk hp.valid hwalk
    rw [hwalk] at hresolve
    cases found with
    | directory place =>
      have hthere := hw.walk_directory (.inr hstart) hwalk
      rw [mode_of_directory hres, mode_of_directory ((hresolve trivial).trans hres),
        h.modes place (by simp [of_decide_eq_true hthere])]
    | other place =>
      cases hget : t.get? place with
      | none => exact absurd (mode_of_absent hres hget) hm
      | some entry =>
        have hres' := (hresolve (by simp [Settled, hget])).trans hres
        simp only [FileTree.mode, hres, hres', bind, Except.bind, hget, h.keeps place entry hget]

/-! ## Empty directories -/

/-- A walk that does not step up, from a directory with nothing in it, goes nowhere. -/
theorem walk_empty {t : FileTree} {place : Place} (hdir : t.isDirectoryAt place = true)
    (hempty : ∀ name, t.get? (place ++ [name]) = none) (links : Nat) {steps : List String}
    (hup : ".." ∉ steps) :
    (t.walk true links place steps = .ok (.directory place) ∧ ∀ step ∈ steps, step = ".") ∨
      (∃ q, t.walk true links place steps = .ok (.other q) ∧ t.get? q = none) ∨
      t.walk true links place steps = .error .notFound ∨
      t.walk true links place steps = .error .nameTooLong := by
  induction steps with
  | nil => exact .inl ⟨t.walk_nil links place, by simp⟩
  | cons step rest ih =>
    rw [walk_cons]
    by_cases hdot : step = "."
    · rw [hdot, stride_dot, afterStride]
      rcases ih fun h => hup (List.mem_cons_of_mem _ h) with ⟨hend, hall⟩ | hnothing
      · exact .inl ⟨hend, fun s hs => (List.mem_cons.mp hs).elim id (hall s)⟩
      · exact .inr hnothing
    · have hstep : step ≠ ".." := fun h => hup (by simp [h])
      right
      rw [stride, if_neg hdot, if_neg hstep, hdir, hempty]
      by_cases hsize : Text.byteSize step > Path.maxPart
      · simp [hsize, afterStride]
      · by_cases hrest : rest = []
        · simp [hsize, hrest, afterStride, hempty]
        · simp [hsize, hrest, afterStride]

end FileTree
end NodeGen
