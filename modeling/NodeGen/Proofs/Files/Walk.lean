/-
Walks through a file tree.

A walk takes the steps of a path one by one.  What it does at a step hangs on the
directory it has come to and on one entry, which `stride` makes explicit.  Three
facts about walks carry everything that is said about paths later: a walk that
found what it looked for is not disturbed by new entries (`walk_extends`), a file
put in the place of another entry can only block a walk (`walk_replace`), and a
walk splits where its path splits (`walk_append`).
-/
import NodeGen.Files.Calls

namespace NodeGen
namespace FileTree

/-! ## Strides -/

inductive Stride where
  | stop (result : Except SystemError Found)
  | go (place : Place)
  | follow (target : String)

/-- The stride from the directory `start`, where `last` tells that no step comes
after this one. -/
def stride (t : FileTree) (start : Place) (step : String) (last : Bool) : Stride :=
  if step = "." then .go start
  else if step = ".." then .go start.dropLast
  else if !t.isDirectoryAt start then .stop (.error .notFound)
  else if Text.byteSize step > Path.maxPart then .stop (.error .nameTooLong)
  else
    match t.get? (start ++ [step]) with
    | some .directory => .go (start ++ [step])
    | some (.file _ _) =>
      .stop (if last then .ok (.other (start ++ [step])) else .error .notDirectory)
    | some (.link target) => .follow target
    | none => .stop (if last then .ok (.other (start ++ [step])) else .error .notFound)

theorem stride_dot (t : FileTree) (start : Place) (last : Bool) :
    t.stride start "." last = .go start :=
  if_pos rfl

/-- In the middle of a walk there is no stopping but by an error. -/
theorem stride_stop {t : FileTree} {start : Place} {step : String}
    {result : Except SystemError Found} (h : t.stride start step false = .stop result) :
    ∃ e, result = .error e := by
  unfold stride at h
  split at h
  · cases h
  split at h
  · cases h
  split at h
  · cases h; exact ⟨_, rfl⟩
  split at h
  · cases h; exact ⟨_, rfl⟩
  split at h <;> cases h <;> exact ⟨_, rfl⟩

theorem stride_stop_ne {t : FileTree} {start place : Place} {step : String} {last : Bool}
    {result : Except SystemError Found} (h : t.stride start step last = .stop result) :
    result ≠ .ok (.directory place) := by
  rintro rfl
  unfold stride at h
  split at h
  · cases h
  split at h
  · cases h
  split at h
  · cases h
  split at h
  · cases h
  split at h <;> cases last <;> cases h

theorem stride_go {t : FileTree} {start place : Place} {step : String} {last : Bool}
    (h : t.stride start step last = .go place) :
    step = "." ∧ place = start ∨ step = ".." ∧ place = start.dropLast ∨
      t.isDirectoryAt place = true := by
  unfold stride at h
  split at h
  · rename_i hdot
    cases h
    exact .inl ⟨hdot, rfl⟩
  split at h
  · rename_i hup
    cases h
    exact .inr (.inl ⟨hup, rfl⟩)
  split at h
  · cases h
  split at h
  · cases h
  split at h <;> cases h
  rename_i hget
  exact .inr (.inr (decide_eq_true hget))

theorem stride_follow {t : FileTree} {start : Place} {step target : String} {last : Bool}
    (h : t.stride start step last = .follow target) : t.isDirectoryAt start = true := by
  unfold stride at h
  split at h
  · cases h
  split at h
  · cases h
  split at h
  · cases h
  rename_i hdir
  simpa using hdir

def afterStride (t : FileTree) (links : Nat) (start : Place) (rest : List String) :
    Stride → Except SystemError Found
  | .stop result => result
  | .go place => t.walk true links place rest
  | .follow target =>
    match links with
    | 0 => .error .tooManyLinks
    | links + 1 =>
      let path := Path.ofText target
      t.walk true links (if path.absolute then [] else start) (path.steps ++ rest)

theorem walk_nil (t : FileTree) (links : Nat) (start : Place) :
    t.walk true links start [] = .ok (.directory start) := by
  cases links <;> rfl

theorem walk_cons (t : FileTree) (links : Nat) (start : Place) (step : String)
    (rest : List String) :
    t.walk true links start (step :: rest) =
      t.afterStride links start rest (t.stride start step (rest = [])) := by
  unfold stride
  cases links <;>
  · rw [walk, walkWith]
    split
    · rfl
    split
    · rfl
    split
    · rfl
    split
    · rfl
    cases h : t.get? (start ++ [step]) with
    | none => simp [h, afterStride]
    | some e =>
      cases e with
      | file number file => simp [h, afterStride]
      | directory => simp only [h]; rfl
      | link target => simp [h, afterStride]

/-- Induction along a walk.  A link takes the walk to other steps, but there are
only so many links to follow. -/
theorem walk_induction {motive : Nat → Place → List String → Prop}
    (nil : ∀ links start, motive links start [])
    (cons : ∀ links start step rest, (∀ place, motive links place rest) →
      (∀ fewer place steps, links = fewer + 1 → motive fewer place (steps ++ rest)) →
      motive links start (step :: rest))
    (links : Nat) (start : Place) (steps : List String) : motive links start steps := by
  induction links generalizing start steps with
  | zero =>
    induction steps generalizing start with
    | nil => exact nil 0 start
    | cons step rest ih => exact cons 0 start step rest ih fun _ _ _ h => by omega
  | succ links ihLinks =>
    induction steps generalizing start with
    | nil => exact nil (links + 1) start
    | cons step rest ih =>
      refine cons (links + 1) start step rest ih fun fewer place steps h => ?_
      obtain rfl : links = fewer := by omega
      exact ihLinks place (steps ++ rest)

/-! ## Larger trees -/

/-- The second tree has every entry of the first one, as it was. -/
structure Extends (t t' : FileTree) : Prop where
  current : t'.current = t.current
  keeps : ∀ q e, t.get? q = some e → t'.get? q = some e
  modes : ∀ q, t.get? q ≠ none → t'.directoryMode q = t.directoryMode q

theorem Extends.refl (t : FileTree) : Extends t t := ⟨rfl, fun _ _ h => h, fun _ _ => rfl⟩

theorem Extends.trans {t t' t'' : FileTree} (h : Extends t t') (h' : Extends t' t'') :
    Extends t t'' where
  current := h'.current.trans h.current
  keeps q e he := h'.keeps q e (h.keeps q e he)
  modes q hq := by
    obtain ⟨e, he⟩ := Option.ne_none_iff_exists'.mp hq
    rw [h'.modes q (by rw [h.keeps q e he]; simp), h.modes q hq]

theorem Extends.absent {t t' : FileTree} (h : Extends t t') {q : Place} (hq : t'.get? q = none) :
    t.get? q = none := by
  refine Option.eq_none_iff_forall_ne_some.mpr fun e he => ?_
  rw [h.keeps q e he] at hq
  cases hq

/-- The result of a walk that rests on entries that are there, and not on one that
is missing. -/
def Settled (t : FileTree) : Except SystemError Found → Prop
  | .ok (.directory _) => True
  | .ok (.other place) => t.get? place ≠ none
  | .error e => e ≠ .notFound

theorem not_settled_notFound (t : FileTree) : ¬ t.Settled (.error .notFound) := fun h => h rfl

theorem Extends.isDirectoryAt {t t' : FileTree} (h : Extends t t') {p : Place}
    (hp : t.isDirectoryAt p = true) : t'.isDirectoryAt p = true := by
  simp only [FileTree.isDirectoryAt, decide_eq_true_eq] at hp ⊢
  exact h.keeps p _ hp

theorem Extends.stride {t t' : FileTree} (h : Extends t t') (start : Place) (step : String)
    (last : Bool) (hs : ∀ result, t.stride start step last = .stop result → t.Settled result) :
    t'.stride start step last = t.stride start step last := by
  unfold FileTree.stride at hs ⊢
  split
  · rfl
  rename_i hdot
  split
  · rfl
  rename_i hup
  rw [if_neg hdot, if_neg hup] at hs
  cases hdir : t.isDirectoryAt start with
  | false => exact absurd (hs _ (by rw [hdir]; rfl)) t.not_settled_notFound
  | true =>
    rw [h.isDirectoryAt hdir]
    simp only [hdir] at hs
    split
    · rfl
    split
    · rfl
    rename_i hsize
    cases hget : t.get? (start ++ [step]) with
    | some e => rw [h.keeps _ e hget]
    | none =>
      rw [if_neg (by simp), if_neg hsize, hget] at hs
      cases last with
      | false => exact absurd (hs _ rfl) t.not_settled_notFound
      | true => exact absurd hget (hs _ rfl)

/-- New entries do not disturb a walk whose result is settled. -/
theorem walk_extends {t t' : FileTree} (h : Extends t t') (links : Nat) (start : Place)
    (steps : List String) (hs : t.Settled (t.walk true links start steps)) :
    t'.walk true links start steps = t.walk true links start steps := by
  induction links, start, steps using walk_induction with
  | nil links start => rw [walk_nil, walk_nil]
  | cons links start step rest ihGo ihFollow =>
    rw [walk_cons] at hs
    have hstride : t'.stride start step (rest = []) = t.stride start step (rest = []) := by
      refine h.stride start step _ fun result hr => ?_
      rw [hr] at hs
      exact hs
    rw [walk_cons, walk_cons, hstride]
    cases hst : t.stride start step (rest = []) with
    | stop result => rfl
    | go place =>
      rw [hst] at hs
      exact ihGo place hs
    | follow target =>
      rw [hst] at hs
      cases links with
      | zero => rfl
      | succ fewer => exact ihFollow fewer _ _ rfl hs

/-! ## A file in the place of another entry -/

/-- The second tree has a file at the place, where the first one has no directory,
and is like the first one everywhere else. -/
structure Replaces (t t' : FileTree) (place : Place) : Prop where
  current : t'.current = t.current
  elsewhere : ∀ q, q ≠ place → t'.get? q = t.get? q
  file : ∃ number file, t'.get? place = some (.file number file)
  noDirectory : t.get? place ≠ some .directory

theorem Replaces.isDirectoryAt {t t' : FileTree} {place : Place} (h : Replaces t t' place)
    (p : Place) : t'.isDirectoryAt p = t.isDirectoryAt p := by
  by_cases hp : p = place
  · subst p
    obtain ⟨number, file, hfile⟩ := h.file
    simp [FileTree.isDirectoryAt, hfile, h.noDirectory]
  · simp only [FileTree.isDirectoryAt, h.elsewhere p hp]

/-- In the middle of a walk, the new file changes no stride but the one that meets
it, which it stops. -/
theorem Replaces.stride {t t' : FileTree} {place : Place} (h : Replaces t t' place)
    (start : Place) (step : String) :
    t'.stride start step false = t.stride start step false ∨
      t'.stride start step false = .stop (.error .notDirectory) ∧
        ((∃ target, t.get? place = some (.link target)) ∨
          ∃ e, t.stride start step false = .stop (.error e)) := by
  unfold FileTree.stride
  rw [h.isDirectoryAt]
  by_cases hdot : step = "."
  · exact .inl (by rw [if_pos hdot, if_pos hdot])
  by_cases hup : step = ".."
  · exact .inl (by rw [if_neg hdot, if_pos hup, if_neg hdot, if_pos hup])
  simp only [if_neg hdot, if_neg hup]
  split
  · exact .inl rfl
  split
  · exact .inl rfl
  by_cases hp : start ++ [step] = place
  · obtain ⟨number, file, hfile⟩ := h.file
    rw [hp, hfile]
    refine .inr ⟨rfl, ?_⟩
    cases hget : t.get? place with
    | none => exact .inr ⟨_, rfl⟩
    | some e =>
      cases e with
      | directory => exact absurd hget h.noDirectory
      | file number file => exact .inr ⟨_, rfl⟩
      | link target => exact .inl ⟨target, rfl⟩
  · exact .inl (by rw [h.elsewhere _ hp])

/-- The new file can only block a walk to a directory, and it does so only where a
link was, or where the walk was blocked before. -/
theorem walk_replaces {t t' : FileTree} {place : Place} (h : Replaces t t' place) (links : Nat)
    (start : Place) (steps : List String) :
    t'.walk true links start (steps ++ ["."]) = t.walk true links start (steps ++ ["."]) ∨
      t'.walk true links start (steps ++ ["."]) = .error .notDirectory ∧
        ((∃ target, t.get? place = some (.link target)) ∨
          ∃ e, t.walk true links start (steps ++ ["."]) = .error e) := by
  induction links, start, steps using walk_induction with
  | nil links start =>
    simp only [List.nil_append, walk_cons, stride_dot]
    exact .inl (by rw [afterStride, afterStride, walk_nil, walk_nil])
  | cons links start step rest ihGo ihFollow =>
    have hlast : decide (rest ++ ["."] = []) = false := by simp
    rw [List.cons_append, walk_cons, walk_cons, hlast]
    rcases h.stride start step with hst | ⟨hst, hwhy⟩
    · rw [hst]
      cases t.stride start step false with
      | stop result => exact .inl rfl
      | go p => exact ihGo p
      | follow target =>
        cases links with
        | zero => exact .inl rfl
        | succ fewer =>
          have hw := ihFollow fewer (if (Path.ofText target).absolute then [] else start)
            (Path.ofText target).steps rfl
          rwa [List.append_assoc] at hw
    · rw [hst]
      refine .inr ⟨rfl, hwhy.imp id ?_⟩
      rintro ⟨e, he⟩
      exact ⟨e, by rw [he]; rfl⟩

/-! ## Parts of a walk -/

/-- A walk either comes to a directory on the first steps, from where it goes on
with the links that are left, or it fails on them. -/
theorem walk_append (t : FileTree) (links : Nat) (start : Place) (steps : List String) :
    (∃ dir fewer, ∀ more, more ≠ [] →
      t.walk true links start (steps ++ more) = t.walk true fewer dir more) ∨
    ∃ e, ∀ more, more ≠ [] → t.walk true links start (steps ++ more) = .error e := by
  induction links, start, steps using walk_induction with
  | nil links start => exact .inl ⟨start, links, fun _ _ => rfl⟩
  | cons links start step rest ihGo ihFollow =>
    have hcons (more : List String) (hm : more ≠ []) :
        t.walk true links start (step :: rest ++ more) =
          t.afterStride links start (rest ++ more) (t.stride start step false) := by
      have hlast : decide (rest ++ more = []) = false := by simp [hm]
      rw [List.cons_append, walk_cons, hlast]
    cases hst : t.stride start step false with
    | stop result =>
      obtain ⟨e, rfl⟩ := stride_stop hst
      exact .inr ⟨e, fun more hm => by rw [hcons more hm, hst]; rfl⟩
    | go p =>
      rcases ihGo p with ⟨dir, fewer, hw⟩ | ⟨e, hw⟩
      · exact .inl ⟨dir, fewer, fun more hm => by rw [hcons more hm, hst]; exact hw more hm⟩
      · exact .inr ⟨e, fun more hm => by rw [hcons more hm, hst]; exact hw more hm⟩
    | follow target =>
      cases links with
      | zero => exact .inr ⟨_, fun more hm => by rw [hcons more hm, hst]; rfl⟩
      | succ fewer =>
        let path := Path.ofText target
        have hfollow (more : List String) (hm : more ≠ []) :
            t.walk true (fewer + 1) start (step :: rest ++ more) =
              t.walk true fewer (if path.absolute then [] else start)
                ((path.steps ++ rest) ++ more) := by
          rw [hcons more hm, hst, List.append_assoc]
          rfl
        rcases ihFollow fewer (if path.absolute then [] else start) path.steps rfl with
          ⟨dir, fewer', hw⟩ | ⟨e, hw⟩
        · exact .inl ⟨dir, fewer', fun more hm => by rw [hfollow more hm, hw more hm]⟩
        · exact .inr ⟨e, fun more hm => by rw [hfollow more hm, hw more hm]⟩

end FileTree
end NodeGen
