/-
One gate for several files.

A run takes from the gate what it asks with, what it formats with and the disk, and adds
to the events.  The earlier events and the state that the run before it left make no
difference to it (`askWrite_following`), so a run whose path is known ends in the state in
which it would end on a fresh gate.  A path is unknown only where a relative one meets a
current directory that is gone.  Such a run fails before it starts, and leaves the state
as it was.
-/
import NodeGen.Confirmation.Strategy
import NodeGen.Proofs.Gate.Trail

namespace NodeGen

variable {σ τ : Type}

/-- A gate with the same confirmer, formatter and disk, and without earlier runs. -/
def Gate.fresh (g : Gate σ τ) : Gate σ τ := Gate.new g.confirmer g.formatter g.disk

/-- The gate with these events before its own. -/
def Gate.following (g : Gate σ τ) (earlier : List Event) : Gate σ τ :=
  { g with events := earlier ++ g.events }

def Gate.Result.following (r : Gate.Result σ τ) (earlier : List Event) : Gate.Result σ τ :=
  (r.1, r.2.following earlier)

theorem Gate.add_following (g : Gate σ τ) (earlier new : List Event) :
    (g.following earlier).add new = (g.add new).following earlier := by
  rw [Gate.add, Gate.following, Gate.following, Gate.add, List.append_assoc]

/-! ## Runs after other events -/

namespace Passage

def following (p : Passage σ τ) (earlier : List Event) : Passage σ τ :=
  { p with gate := p.gate.following earlier }

section Steps

variable (p : Passage σ τ) (earlier : List Event)

theorem note_following (level : Level) (message : String) :
    (p.following earlier).note level message = (p.note level message).following earlier :=
  congrArg (Passage.mk · _) (Gate.add_following _ _ _)

theorem enter_following (s : GateState) :
    (p.following earlier).enter s = (p.enter s).following earlier :=
  congrArg (fun g : Gate σ τ => Passage.mk { g with state := s } _) (Gate.add_following _ _ _)

theorem asked_following (step : Step) (prompt : String) (reply : Reply) (c : σ) :
    (p.following earlier).asked step prompt reply c =
      (p.asked step prompt reply c).following earlier :=
  congrArg (fun g : Gate σ τ => Passage.mk { g with confirmer := c } _) (Gate.add_following _ _ _)

theorem stored_following (contents : String) (result : Except AtomicWrite.WriteError Unit)
    (d : Disk) :
    (p.following earlier).stored contents result d =
      (p.stored contents result d).following earlier :=
  congrArg (fun g : Gate σ τ => Passage.mk { g with disk := d } _) (Gate.add_following _ _ _)

theorem reformatted_following (result : Except FormatError Unit) (f : τ) (d : Disk) :
    (p.following earlier).reformatted result f d =
      (p.reformatted result f d).following earlier :=
  congrArg (fun g : Gate σ τ => Passage.mk { g with formatter := f, disk := d } _)
    (Gate.add_following _ _ _)

theorem written_following (contents : String) (d : Disk) :
    (p.following earlier).written contents d = (p.written contents d).following earlier := by
  let q := p.stored contents (.ok ()) d
  let q : Passage σ τ := { q with outcome := { q.outcome with written := true } }
  have hentered : (p.following earlier).written contents d =
      ((q.following earlier).enter .written).note .info ("wrote " ++ p.path) := by
    rw [written, stored_following]
    rfl
  rw [hentered, enter_following, note_following]
  rfl

/-- Each of the ends of a run that was declined. -/
theorem decline_following (message : String) :
    (((p.following earlier).note .info message).enter .aborted).finish =
      ((p.note .info message).enter .aborted).finish.following earlier := by
  rw [note_following, enter_following]
  rfl

end Steps

variable [Confirmer σ] [Formatter τ] (p : Passage σ τ) (earlier : List Event)

omit [Confirmer σ] in
theorem format_following :
    (p.following earlier).format = p.format.following earlier := by
  rcases hran : Formatter.format p.gate.formatter p.path p.gate.disk with ⟨result, f, d⟩
  have hran' : Formatter.format (p.following earlier).gate.formatter (p.following earlier).path
      (p.following earlier).gate.disk = (result, f, d) := hran
  rw [format, format, reformat_eq hran, reformat_eq hran', reformatted_following]
  let q := p.reformatted result f d
  cases result with
  | ok u =>
    show (((q.following earlier).note .info ("formatted " ++ p.path)).enter .formatted).finish = _
    rw [note_following, enter_following]
    rfl
  | error e =>
    let q' := (q.note .warn e.text).fail e
    have hfail : ((q.following earlier).note .warn e.text).fail e = q'.following earlier := by
      rw [note_following]
      rfl
    show ((((q.following earlier).note .warn e.text).fail e).enter .formatFailed).finish = _
    rw [hfail, enter_following]
    rfl

theorem askFormat_following :
    (p.following earlier).askFormat = p.askFormat.following earlier := by
  rcases hask : Confirmer.confirm p.gate.confirmer .format p.formatQuestion with ⟨reply, c⟩
  have hask' : Confirmer.confirm (p.following earlier).gate.confirmer .format
      (p.following earlier).formatQuestion = (reply, c) := hask
  rw [askFormat_eq hask, askFormat_eq hask', enter_following, asked_following]
  rcases reply.answer with e | (_ | _)
  · rfl
  · exact decline_following _ earlier _
  · exact format_following _ earlier

theorem write_following (contents : String) :
    (p.following earlier).write contents = (p.write contents).following earlier := by
  rcases hwrote : AtomicWrite.run ⟨p.path, contents⟩ p.gate.disk with ⟨_ | _, d⟩
  case error e =>
    have hwrote' : AtomicWrite.run ⟨(p.following earlier).path, contents⟩
        (p.following earlier).gate.disk = (.error e, d) := hwrote
    rw [write, write, store_eq hwrote, store_eq hwrote', stored_following]
    show (((p.stored contents _ d).following earlier).enter .writeFailed).stop _ = _
    rw [enter_following]
    rfl
  case ok u =>
    have hwrote' : AtomicWrite.run ⟨(p.following earlier).path, contents⟩
        (p.following earlier).gate.disk = (.ok (), d) := hwrote
    rw [write_done hwrote, write_done hwrote', written_following]
    exact askFormat_following _ earlier

theorem askWrite_following (contents : String) :
    (p.following earlier).askWrite contents = (p.askWrite contents).following earlier := by
  rcases hask : Confirmer.confirm p.gate.confirmer .write p.writeQuestion with ⟨reply, c⟩
  have hask' : Confirmer.confirm (p.following earlier).gate.confirmer .write
      (p.following earlier).writeQuestion = (reply, c) := hask
  rw [askWrite_eq contents hask, askWrite_eq contents hask', enter_following, asked_following]
  rcases reply.answer with e | (_ | _)
  · rfl
  · exact decline_following _ earlier _
  · exact write_following _ earlier contents

end Passage

/-! ## Paths with nowhere to start -/

/-- The path is relative, and the current directory is gone. -/
def Disk.Unplaced (d : Disk) (path : String) : Prop :=
  Path.isAbsolute path = false ∧ d.tree.isDirectoryAt d.tree.current = false

namespace Disk

variable {d : Disk} {path : String}

theorem absolute_of_unplaced (h : d.Unplaced path) :
    d.absolute path = .error (.system .notFound) := by
  rw [absolute, h.1, FileTree.currentDirectory, h.2]
  rfl

theorem not_unplaced_iff : ¬ d.Unplaced path ↔
    Path.isAbsolute path = true ∨ d.tree.isDirectoryAt d.tree.current = true := by
  rw [Unplaced, not_and_or, Bool.not_eq_false, Bool.not_eq_false]

end Disk

/-! ## Ends of a run -/

namespace Passage.Traced

variable {g : Gate σ τ} {path : String} {r : Gate.Result σ τ}

/-- An error is of the question or the write at which the run itself stopped. -/
theorem stopped (h : Traced g path r) {e : GateError} (herror : r.1 = .error e) :
    r.2.state = .awaitingWrite ∨ r.2.state = .awaitingFormat ∨ r.2.state = .writeFailed := by
  obtain ⟨trail, events, -, -, -, -, -, -, hend⟩ := h
  rw [herror] at hend
  cases e with
  | confirm e =>
    obtain ⟨step, -, -, -, -, hstate⟩ := hend
    cases step with
    | write => exact .inl hstate
    | format => exact .inr (.inl hstate)
  | write e => exact .inr (.inr hend.1)

theorem state_ne_idle (h : Traced g path r) : r.2.state ≠ .idle := by
  cases hresult : r.1 with
  | error e =>
    intro hidle
    have hstopped := h.stopped hresult
    rw [hidle] at hstopped
    rcases hstopped with h | h | h <;> cases h
  | ok o =>
    obtain ⟨trail, events, -, -, -, -, -, -, hend⟩ := h
    rw [hresult] at hend
    intro hidle
    exact (hidle ▸ hend.2.2.2.1 : GateState.terminal .idle) _ .ask

end Passage.Traced

/-! ## Runs on a used gate -/

namespace Gate

variable [Confirmer σ] [Formatter τ]

/-- A run whose path is known goes as on the fresh gate. -/
theorem run_fresh {g : Gate σ τ} {path : String} (contents : String)
    (h : ¬ g.disk.Unplaced path) :
    g.run path contents = (g.fresh.run path contents).following g.events := by
  obtain ⟨full, hfull⟩ := absolute_of_available (Disk.not_unplaced_iff.mp h)
  have hfresh : g.fresh.disk.absolute path = .ok full := hfull
  have hstart : Passage.start g full = (Passage.start g.fresh full).following g.events := by
    rw [Passage.following, following, Passage.start, Passage.start]
    exact congrArg (fun events => Passage.mk { g with state := .idle, events := events } _)
      (List.append_nil g.events).symm
  simp only [run, hfull, hfresh]
  rw [hstart]
  exact Passage.askWrite_following _ g.events contents

theorem run_unplaced {g : Gate σ τ} {path contents : String} (h : g.disk.Unplaced path) :
    g.run path contents = (.error (.write ⟨path, .system .notFound⟩), g) :=
  run_unknown (Disk.absolute_of_unplaced h)

theorem run_traced {g : Gate σ τ} {path : String} (contents : String)
    (h : ¬ g.disk.Unplaced path) :
    ∃ full, g.disk.absolute path = .ok full ∧
      Passage.Traced g full (g.run path contents) := by
  obtain ⟨full, hfull, htraced, -⟩ :=
    g.run_trailKept path contents (Disk.not_unplaced_iff.mp h)
  exact ⟨full, hfull, htraced⟩

theorem run_state_ne_idle {g : Gate σ τ} {path : String} (contents : String)
    (h : ¬ g.disk.Unplaced path) : (g.run path contents).2.state ≠ .idle := by
  obtain ⟨full, -, htraced⟩ := run_traced contents h
  exact htraced.state_ne_idle

/-- No run leads back to the idle state. -/
theorem runAll_state_ne_idle {g : Gate σ τ} (h : g.state ≠ .idle)
    (files : List (String × String)) : (g.runAll files).2.state ≠ .idle := by
  induction files generalizing g with
  | nil => exact h
  | cons file rest ih =>
    have hnext : (g.run file.1 file.2).2.state ≠ .idle := by
      by_cases hplaced : g.disk.Unplaced file.1
      · rw [run_unplaced hplaced]
        exact h
      · exact run_state_ne_idle file.2 hplaced
    exact ih hnext

/-- A gate stays idle as long as no run on it knows its path. -/
theorem runAll_state_eq_idle_iff {g : Gate σ τ} (h : g.state = .idle)
    (files : List (String × String)) :
    (g.runAll files).2.state = .idle ↔ ∀ file ∈ files, g.disk.Unplaced file.1 := by
  induction files with
  | nil => simp [runAll, h]
  | cons file rest ih =>
    by_cases hplaced : g.disk.Unplaced file.1
    · have hrest : (g.runAll (file :: rest)).2 = (g.runAll rest).2 := by
        simp only [runAll, run_unplaced hplaced]
      rw [hrest, ih, List.forall_mem_cons]
      exact (and_iff_right hplaced).symm
    · have hne : (g.runAll (file :: rest)).2.state ≠ .idle :=
        runAll_state_ne_idle (run_state_ne_idle file.2 hplaced) rest
      exact iff_of_false hne fun hall => hplaced (hall file List.mem_cons_self)

/-- A run compared with the same run on a fresh gate. -/
structure Reused (g : Gate σ τ) (path : String) (r alone : Result σ τ) : Prop where
  result : r.1 = alone.1
  world : r.2.world = alone.2.world
  events : r.2.events = g.events ++ alone.2.events
  /-- If its path is known, then the state of the gate is the one in which it stopped. -/
  own : ¬ g.disk.Unplaced path → r.2.state = alone.2.state ∧
    (∃ full, g.disk.absolute path = .ok full ∧ Passage.Traced g full r) ∧
    ∀ e, r.1 = .error e →
      r.2.state = .awaitingWrite ∨ r.2.state = .awaitingFormat ∨ r.2.state = .writeFailed
  /-- If not, then it is the one that it was before. -/
  inherited : g.disk.Unplaced path → r = (.error (.write ⟨path, .system .notFound⟩), g) ∧
    alone.2.state = .idle

theorem run_reused (g : Gate σ τ) (path contents : String) :
    Reused g path (g.run path contents) (g.fresh.run path contents) := by
  by_cases hplaced : g.disk.Unplaced path
  · have hfresh : g.fresh.run path contents =
        (.error (.write ⟨path, .system .notFound⟩), g.fresh) := run_unplaced hplaced
    rw [run_unplaced hplaced, hfresh]
    exact
      { result := rfl
        world := rfl
        events := (List.append_nil _).symm
        own := fun h => absurd hplaced h
        inherited := fun _ => ⟨rfl, rfl⟩ }
  · have hrun := run_fresh contents hplaced
    obtain ⟨full, hfull, htraced⟩ := run_traced contents hplaced
    exact
      { result := (congrArg Prod.fst hrun :)
        world := (congrArg (fun r => r.2.world) hrun :)
        events := (congrArg (fun r => r.2.events) hrun :)
        own := fun _ => ⟨(congrArg (fun r => r.2.state) hrun :), ⟨full, hfull, htraced⟩,
          fun _ he => htraced.stopped he⟩
        inherited := fun h => absurd h hplaced }

/-- Whatever runs went before, a run gives what it gives on a fresh gate and does the same.
The state after it is also the same if the path is known, and otherwise only if no run
before it knew its path. -/
theorem run_after_history (c : σ) (f : τ) (d : Disk) (history : List (String × String))
    (path contents : String) :
    let g := ((new c f d).runAll history).2
    let r := g.run path contents
    let alone := g.fresh.run path contents
    Reused g path r alone ∧
      (r.2.state = alone.2.state ↔
        ¬ g.disk.Unplaced path ∨ ∀ file ∈ history, d.Unplaced file.1) := by
  intro g r alone
  have hreused : Reused g path r alone := g.run_reused path contents
  refine ⟨hreused, ?_⟩
  by_cases hplaced : g.disk.Unplaced path
  · obtain ⟨hr, hidle⟩ := hreused.inherited hplaced
    have hstate : r.2.state = g.state := by rw [hr]
    have hhistory : g.state = .idle ↔ ∀ file ∈ history, d.Unplaced file.1 :=
      runAll_state_eq_idle_iff (g := new c f d) rfl history
    rw [hstate, hidle, hhistory]
    simp [hplaced]
  · exact iff_of_true (hreused.own hplaced).1 (.inl hplaced)

/-- The second path is relative and the current directory is gone, so its run fails, and the
gate still says of the first file that it was formatted. -/
theorem formatted_outlives_run :
    let d := Disk.sound ⟨[(["d"], .directory)], ["gone"], []⟩
    let g := ((new Strategy.alwaysConfirm (⟨[], []⟩ : Recorder) d).runAll [("/d/a.go", "x")]).2
    (g.run "b.go" "y").1 = .error (.write ⟨"b.go", .system .notFound⟩) ∧
      (g.run "b.go" "y").2.state = .formatted ∧ (g.fresh.run "b.go" "y").2.state = .idle := by
  decide +kernel

end Gate
end NodeGen
