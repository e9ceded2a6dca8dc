/-
Making the directories of a path.

All that can happen to a tree is that a directory appears at a place where nothing
was and which a start of the path names.  `Makes` is one such step and `Grows` any
number of them; what is kept, what is new and where paths lead afterwards follow
from the steps alone.
-/
import Mathlib.Logic.Relation
import NodeGen.Proofs.Files.WellFormed

namespace NodeGen
namespace FileTree

/-! ## The directory of a path -/

/-- Steps that stay in place can be left out in the middle of a walk. -/
theorem walk_skip_dots (t : FileTree) (links : Nat) (start : Place) (before steps : List String)
    {after : List String} (hafter : after ≠ []) :
    t.walk true links start (before ++ steps ++ after) =
      t.walk true links start (before ++ steps.filter (· ≠ ".") ++ after) := by
  induction steps generalizing before with
  | nil => rfl
  | cons step rest ih =>
    by_cases hdot : step = "."
    · have hskip : t.walk true links start (before ++ step :: rest ++ after) =
          t.walk true links start (before ++ rest ++ after) := by
        rw [List.append_assoc, List.append_assoc, List.cons_append, hdot]
        rcases t.walk_append links start before with ⟨d, fewer, hw⟩ | ⟨e, hw⟩
        · rw [hw _ (by simp), hw _ (by simp [hafter]), walk_cons, stride_dot, afterStride]
        · rw [hw _ (by simp), hw _ (by simp [hafter])]
      rw [hskip, ih before, List.filter_cons_of_neg (by simp [hdot])]
    · have hnext := ih (before ++ [step])
      rw [List.filter_cons_of_pos (by simp [hdot])]
      simpa using hnext

/-- The parts that a path is split at, of which the last one names the entry. -/
theorem EndsIn.properParts {p : Path} {name : String} (hp : EndsIn p name) :
    ∃ above last, p.properParts = above ++ [last] ∧
      ∀ (t : FileTree) (links : Nat) (start : Place) (after : List String), after ≠ [] →
        t.walk true links start (p.names.dropLast ++ after) =
          t.walk true links start (above.map Path.Part.name ++ after) := by
  obtain ⟨last, hlast, hname⟩ : ∃ last, p.parts.getLast? = some last ∧ last.name = name := by
    have h := hp.last
    rw [Path.names, List.getLast?_map] at h
    exact Option.map_eq_some_iff.mp h
  have hdot : last.name ≠ "." := hname ▸ hp.ordinary.1
  have hparts : p.parts = p.parts.dropLast ++ [last] :=
    (List.dropLast_append_getLast? last hlast).symm
  have hnames : p.names.dropLast = p.parts.dropLast.map Path.Part.name := by
    rw [Path.names, List.map_dropLast]
  rw [hnames]
  cases hinit : p.parts.dropLast with
  | nil =>
    refine ⟨[], last, ?_, fun _ _ _ _ _ => rfl⟩
    rw [Path.properParts, hparts, hinit]
    simp [hdot]
  | cons first middle =>
    let kept := if first.name = "." && p.absolute then [] else [first]
    refine ⟨kept ++ middle.filter (·.name ≠ "."), last, ?_, ?_⟩
    · rw [Path.properParts, hparts, hinit]
      simp [kept, hdot]
    · intro t links start after hafter
      have hskip := t.walk_skip_dots links start [first.name] (middle.map Path.Part.name) hafter
      rw [List.filter_map] at hskip
      rw [List.map_cons, ← List.singleton_append, hskip, List.map_append]
      by_cases hfirst : first.name = "." ∧ p.absolute = true
      · rw [hfirst.1, List.singleton_append, List.cons_append, walk_cons, stride_dot, afterStride]
        simp only [kept, hfirst]
        rfl
      · have hkept : kept = [first] := if_neg (by simpa using hfirst)
        rw [hkept]
        rfl

/-- The directory of a path is where the walk to the path's entry goes first. -/
theorem EndsIn.directory {p : Path} {name : String} (hp : EndsIn p name) :
    p.directory.absolute = p.absolute ∧
      ∀ (t : FileTree) (links : Nat) (start : Place) (after : List String), after ≠ [] →
        t.walk true links start (p.names.dropLast ++ after) =
          t.walk true links start (p.directory.names ++ after) := by
  obtain ⟨above, last, hproper, hwalk⟩ := hp.properParts
  have hdrop : p.properParts.dropLast = above := by rw [hproper, List.dropLast_concat]
  cases above with
  | cons part more =>
    have hdir : p.directory = Path.ofParts p.absolute (part :: more) := by
      simp only [Path.directory, hdrop]
    rw [hdir]
    exact ⟨rfl, hwalk⟩
  | nil =>
    cases habs : p.absolute with
    | true =>
      have hdir : p.directory = Path.ofParts true [] := by
        simp [Path.directory, habs, hproper]
      rw [hdir]
      exact ⟨rfl, hwalk⟩
    | false =>
      have hdir : p.directory = Path.here := by
        simp only [Path.directory, hdrop, habs]
        rfl
      rw [hdir]
      refine ⟨rfl, fun t links start after hafter => ?_⟩
      rw [hwalk t links start after hafter]
      show t.walk true links start after = t.walk true links start ("." :: after)
      rw [walk_cons, stride_dot, afterStride]

/-! ## Steps -/

/-- A start of the path names the place. -/
def OnWay (t : FileTree) (p : Path) (place : Place) : Prop :=
  ∃ parts dir name, parts <+: p.parts ∧
    Names t (Path.ofParts p.absolute parts) dir name ∧ place = dir ++ [name]

theorem OnWay.extends {t t' : FileTree} (h : Extends t t') {p : Path} {place : Place}
    (hplace : OnWay t p place) : OnWay t' p place := by
  obtain ⟨parts, dir, name, hparts, hnames, rfl⟩ := hplace
  exact ⟨parts, dir, name, hparts, h.names hnames, rfl⟩

/-- A directory is made on the way that the path goes. -/
def Makes (p : Path) (t t' : FileTree) : Prop :=
  ∃ place, OnWay t p place ∧ t.get? place = none ∧ t' = t.putDirectory place

def Grows (p : Path) : FileTree → FileTree → Prop := Relation.ReflTransGen (Makes p)

def Made (p : Path) (t : FileTree) (place : Place) : Prop :=
  OnWay t p place ∧ t.get? place = some .directory

/-- From a directory that is there, the rest of the way does not step up. -/
def Steady (t : FileTree) (p : Path) : Prop :=
  ∃ known rest dir, p.names = known ++ rest ∧ ".." ∉ rest ∧
    t.walk true maxLinks (t.startOf p) (known ++ ["."]) = .ok (.directory dir)

variable {p : Path} {t t' : FileTree}

theorem Makes.extends (h : Makes p t t') : Extends t t' := by
  obtain ⟨place, -, habsent, rfl⟩ := h
  exact extends_putDirectory habsent

theorem Makes.wellFormed (h : Makes p t t') (hw : t.WellFormed) : t'.WellFormed := by
  obtain ⟨place, ⟨parts, dir, name, -, hnames, rfl⟩, -, rfl⟩ := h
  exact hw.putDirectory hnames.present

theorem Makes.new (h : Makes p t t') {q : Place} (hq : t.get? q = none) (hq' : t'.get? q ≠ none) :
    Made p t' q := by
  have hext := h.extends
  obtain ⟨place, hway, habsent, rfl⟩ := h
  have hplace := get?_putDirectory t (ne_root_of_absent habsent) q
  by_cases hqp : q = place
  · rw [if_pos hqp] at hplace
    exact ⟨hqp ▸ hway.extends hext, hplace⟩
  · rw [if_neg hqp] at hplace
    exact absurd (hplace.trans hq) hq'

theorem Steady.extends (h : Extends t t') (hs : Steady t p) : Steady t' p := by
  obtain ⟨known, rest, dir, hnames, hup, hwalk⟩ := hs
  refine ⟨known, rest, dir, hnames, hup, ?_⟩
  rw [startOf_eq h.current, walk_extends h _ _ _ (by rw [hwalk]; trivial), hwalk]

/-- The rest of a steady way lies below the directory that was made, where there is
nothing yet. -/
theorem Makes.walk_below (h : Makes p t t') (hw : t.WellFormed) (hs : Steady t p) :
    ∃ place rest fewer, t'.isDirectoryAt place = true ∧
      (∀ name, t'.get? (place ++ [name]) = none) ∧ ".." ∉ rest ∧
      ∀ after, after ≠ [] → t'.walk true maxLinks (t'.startOf p) (p.names ++ after) =
        t'.walk true fewer place (rest ++ after) := by
  have hext := h.extends
  obtain ⟨place, ⟨parts, dir, name, ⟨more, hmore⟩, hnames, rfl⟩, habsent, rfl⟩ := h
  let start := Path.ofParts p.absolute parts
  have hp : p.names = start.names ++ more.map Path.Part.name := by
    rw [Path.names, ← hmore, List.map_append]
    rfl
  obtain ⟨known, rest, d, hknown, hup, hwalk⟩ := hs
  have hbefore : known <+: start.names := by
    rcases List.prefix_or_prefix_of_prefix ⟨rest, hknown.symm⟩ ⟨_, hp.symm⟩ with h | ⟨c, hc⟩
    · exact h
    · -- the walk to `known` would go through the place that has no entry
      obtain ⟨fewer, hthrough⟩ := hnames.walk_through
      have hmissing : t.walk true maxLinks (t.startOf p) (known ++ ["."]) = .error .notFound := by
        rw [← hc, List.append_assoc, hnames.names_append]
        refine (hthrough _ (by simp)).trans ?_
        rw [walk_cons, hnames.stride, habsent]
        simp [afterStride]
      rw [hmissing] at hwalk
      cases hwalk
  refine ⟨dir ++ [name], more.map Path.Part.name, ?_⟩
  have hmade (q : Place) := get?_putDirectory t (append_ne_root dir name) q
  obtain ⟨fewer, hthrough⟩ := (hext.names hnames).walk_through
  refine ⟨fewer, by simp [isDirectoryAt, hmade], fun child => ?_, ?_, fun after hafter => ?_⟩
  · rw [hmade, if_neg (by simp)]
    exact hw.below_absent habsent child
  · obtain ⟨c, hc⟩ := hbefore
    have hrest : rest = c ++ more.map Path.Part.name := by
      rw [hp, ← hc, List.append_assoc] at hknown
      exact (List.append_cancel_left hknown).symm
    exact fun hmem => hup (hrest ▸ List.mem_append_right c hmem)
  · rw [hp, List.append_assoc, hnames.names_append]
    refine (hthrough _ (by simp)).trans ?_
    rw [walk_cons, (hext.names hnames).stride, hmade, if_pos rfl]
    rfl

/-- Nothing is where the path leads. -/
structure Vacant (t : FileTree) (p : Path) : Prop where
  absent : ∀ dir name, Names t p dir name → t.get? (dir ++ [name]) = none
  mode : p.slashed = false →
    t.mode p = .error (.system .notFound) ∨ t.mode p = .error (.system .nameTooLong)

/-- Nothing is at the end of a path right after a directory was made on its way. -/
theorem Makes.vacant {name : String} (hp : EndsIn p name) (h : Makes p.directory t t')
    (hw : t.WellFormed) (hs : Steady t p.directory) : Vacant t' p := by
  obtain ⟨place, rest, fewer, hdir, hempty, hup, hbelow⟩ := h.walk_below hw hs
  obtain ⟨habs, hwalk⟩ := hp.directory
  have hstart : t'.startOf p.directory = t'.startOf p := by
    rw [startOf, startOf, habs]
  rw [hstart] at hbelow
  have hway (after : List String) (hafter : after ≠ []) :
      t'.walk true maxLinks (t'.startOf p) (p.names.dropLast ++ after) =
        t'.walk true fewer place (rest ++ after) := by
    rw [hwalk _ _ _ _ hafter, hbelow _ hafter]
  have hstay (last : String) (hlast : last ≠ "..") : ".." ∉ rest ++ [last] := by
    simp [hup, Ne.symm hlast]
  constructor
  · intro dir name' hnames
    have hparent := hnames.parent
    rw [walkToParent, hway _ (by simp)] at hparent
    rcases walk_empty hdir hempty fewer (hstay "." (by decide)) with
      ⟨hend, -⟩ | ⟨q, hend, -⟩ | hend | hend <;> rw [hend] at hparent <;> cases hparent
    exact hempty name'
  · intro hslash
    have hsteps : t'.walk true maxLinks (t'.startOf p) p.steps =
        t'.walk true fewer place (rest ++ [name]) := by
      rw [steps_eq_names hslash, hp.names_eq, hway _ (by simp)]
    rcases walk_empty hdir hempty fewer (hstay name hp.ordinary.2) with
      ⟨-, hall⟩ | ⟨q, hend, hq⟩ | hend | hend
    · exact absurd (hall name (by simp)) hp.ordinary.1
    · exact .inl (mode_of_absent (resolve_of_walk hp.valid (hsteps.trans hend)) hq)
    · exact .inl (mode_of_resolve_error (resolve_of_walk_error hp.valid (hsteps.trans hend)))
    · exact .inr (mode_of_resolve_error (resolve_of_walk_error hp.valid (hsteps.trans hend)))

/-! ## Any number of steps -/

theorem Grows.extends (h : Grows p t t') : Extends t t' := by
  induction h with
  | refl => exact Extends.refl t
  | tail _ hstep ih => exact ih.trans hstep.extends

theorem Grows.wellFormed (h : Grows p t t') (hw : t.WellFormed) : t'.WellFormed := by
  induction h with
  | refl => exact hw
  | tail _ hstep ih => exact hstep.wellFormed ih

theorem Grows.new (h : Grows p t t') {q : Place} (hq : t.get? q = none) (hq' : t'.get? q ≠ none) :
    Made p t' q := by
  induction h with
  | refl => exact absurd hq hq'
  | @tail u u' hsteps hstep ih =>
    cases hu : u.get? q with
    | none => exact hstep.new hu hq'
    | some e =>
      obtain ⟨hway, hdir⟩ := ih (by simp [hu])
      exact ⟨hway.extends hstep.extends, hstep.extends.keeps q _ hdir⟩

/-- Making directories does not make anything appear at the end of the path. -/
theorem Grows.vacant {name : String} (hp : EndsIn p name) (h : Grows p.directory t t')
    (hw : t.WellFormed) (hs : Steady t p.directory) : t' = t ∨ Vacant t' p := by
  cases Relation.ReflTransGen.cases_tail h with
  | inl heq => exact .inl heq
  | inr hlast =>
    obtain ⟨u, hsteps, hstep⟩ := hlast
    exact .inr (hstep.vacant hp (Grows.wellFormed hsteps hw) (hs.extends (Grows.extends hsteps)))

/-- The mode that is reported of the path stays what it was. -/
theorem Grows.mode {name : String} (hp : EndsIn p name) (hslash : p.slashed = false)
    (h : Grows p.directory t t') (hw : t.WellFormed) (hs : Steady t p.directory) :
    t'.mode p = t.mode p ∨ t'.mode p = .error (.system .nameTooLong) := by
  by_cases hm : t.mode p = .error (.system .notFound)
  · rcases h.vacant hp hw hs with rfl | hv
    · exact .inl rfl
    · exact (hv.mode hslash).imp_left (·.trans hm.symm)
  · exact .inl (h.extends.mode hw hp hm)

end FileTree
end NodeGen
