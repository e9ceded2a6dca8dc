/-
The gate stays on its diagram.

A run keeps its state three times: in the gate, in the outcome, and as the end of
the trail.  Every step of a run keeps them together, along with the flag for a
written file and the trace records, one for each move.  `Passage.OnTrail` is this
invariant, and `OnTrail.enter` its one step that moves.  Where a run ends tells
what it returns, whatever state the gate was in before.
-/
import Mathlib.Data.List.Chain
import NodeGen.Proofs.Gate.Conduct

namespace NodeGen

/-! ## The diagram -/

namespace GateState

/-- How far along the diagram the state is. -/
def rank : GateState → Nat
  | idle => 0
  | awaitingWrite => 1
  | written => 2
  | awaitingFormat => 3
  | formatted | formatFailed | writeFailed | aborted => 4

theorem rank_lt_of_move {s s' : GateState} (h : Move s s') : s.rank < s'.rank := by
  cases h <;> decide

/-- No state is met twice along the moves of the diagram. -/
theorem nodup_of_moves {trail : List GateState} (h : trail.IsChain Move) : trail.Nodup := by
  have hlt : trail.IsChain fun s s' => s.rank < s'.rank :=
    h.imp fun _ _ => rank_lt_of_move
  have hpair : trail.Pairwise fun s s' => s.rank < s'.rank :=
    (List.isChain_iff_pairwise (R := fun s s' : GateState => s.rank < s'.rank)).mp hlt
  apply hpair.imp
  intro s s' hlt hs
  subst s'
  exact Nat.lt_irrefl s.rank hlt

end GateState

/-- The state in which the reply to a question is awaited. -/
def Step.awaiting : Step → GateState
  | .write => .awaitingWrite
  | .format => .awaitingFormat

/-! ## Trace records -/

def traces (events : List Event) : List Record :=
  (events.filterMap Event.record?).filter fun r => r.level = .trace

theorem traces_append (a b : List Event) : traces (a ++ b) = traces a ++ traces b := by
  rw [traces, List.filterMap_append, List.filter_append, traces, traces]

/-- The records of the moves from each state of the trail to the next. -/
def moveRecords (path : String) : List GateState → List Record
  | s :: s' :: rest => Passage.moveRecord path s s' :: moveRecords path (s' :: rest)
  | _ => []

theorem moveRecords_snoc (path : String) {trail : List GateState} {last s : GateState}
    (h : trail.getLast? = some last) :
    moveRecords path (trail ++ [s]) =
      moveRecords path trail ++ [Passage.moveRecord path last s] := by
  induction trail with
  | nil => simp at h
  | cons a rest ih =>
    cases rest with
    | nil =>
      obtain rfl : a = last := by simpa using h
      rfl
    | cons b rest =>
      rw [List.getLast?_cons_cons] at h
      simpa [moveRecords] using ih h

/-! ## The invariant -/

variable {σ τ : Type}

namespace Passage

/-- A run that started at the gate `g` and has had these events so far. -/
structure OnTrail (g : Gate σ τ) (p : Passage σ τ) (events : List Event) : Prop where
  logged : p.gate.events = g.events ++ events
  first : p.outcome.trail.head? = some .idle
  last : p.outcome.trail.getLast? = some p.gate.state
  state : p.outcome.state = p.gate.state
  moves : p.outcome.trail.IsChain GateState.Move
  written : p.outcome.written = true ↔ .written ∈ p.outcome.trail
  traced : traces events = moveRecords p.path p.outcome.trail

namespace OnTrail

variable {g : Gate σ τ} {p q : Passage σ τ} {events new : List Event}

theorem start (g : Gate σ τ) (path : String) : OnTrail g (Passage.start g path) [] where
  logged := (List.append_nil _).symm
  first := rfl
  last := rfl
  state := rfl
  moves := .singleton _
  written := by simp [Passage.start]
  traced := rfl

/-- A step that is no move may change the formatter's error and add events
without traces. -/
theorem quiet (h : OnTrail g p events)
    (hout : q.outcome = { p.outcome with formatError := q.outcome.formatError })
    (hstate : q.gate.state = p.gate.state) (hevents : q.gate.events = p.gate.events ++ new)
    (hnew : traces new = []) : OnTrail g q (events ++ new) where
  logged := by rw [hevents, h.logged, List.append_assoc]
  first := by rw [hout]; exact h.first
  last := by rw [hout, hstate]; exact h.last
  state := by rw [hout, hstate]; exact h.state
  moves := by rw [hout]; exact h.moves
  written := by rw [hout]; exact h.written
  traced := by
    have hpath : q.path = p.path := by rw [path, hout]; rfl
    rw [traces_append, hnew, List.append_nil, hpath, hout]
    exact h.traced

/-- A move of the diagram.  The flag is up from the written state on. -/
theorem enter (h : OnTrail g p events) {s : GateState} (hmove : GateState.Move p.gate.state s)
    {w : Bool} (hw : w = true ↔ p.outcome.written = true ∨ s = .written) :
    OnTrail g ({ p with outcome := { p.outcome with written := w } }.enter s)
      (events ++ [.record (moveRecord p.path p.gate.state s)]) where
  logged := by
    show p.gate.events ++ _ = _
    rw [h.logged, List.append_assoc]
    rfl
  first := by
    show (p.outcome.trail ++ [s]).head? = _
    rw [List.head?_append, h.first]
    rfl
  last := by
    show (p.outcome.trail ++ [s]).getLast? = _
    rw [List.getLast?_append]
    rfl
  state := rfl
  moves := by
    show (p.outcome.trail ++ [s]).IsChain _
    refine List.isChain_append.mpr ⟨h.moves, .singleton s, ?_⟩
    intro x hx y hy
    rw [h.last] at hx
    obtain rfl : p.gate.state = x := by simpa using hx
    obtain rfl : s = y := by simpa using hy
    exact hmove
  written := by
    show w = true ↔ .written ∈ p.outcome.trail ++ [s]
    rw [hw, h.written, List.mem_append, List.mem_singleton, eq_comm (a := s)]
  traced := by
    show _ = moveRecords p.path (p.outcome.trail ++ [s])
    rw [moveRecords_snoc _ h.last, traces_append, h.traced]
    rfl

theorem enter_other (h : OnTrail g p events) {s : GateState}
    (hmove : GateState.Move p.gate.state s) (hs : s ≠ .written) :
    OnTrail g (p.enter s) (events ++ [.record (moveRecord p.path p.gate.state s)]) := by
  have hw : p.outcome.written = true ↔ p.outcome.written = true ∨ s = .written := by
    simp [hs]
  exact h.enter hmove hw

theorem note (h : OnTrail g p events) (level : Level) (message : String) (hl : level ≠ .trace) :
    OnTrail g (p.note level message) (events ++ [.record ⟨level, .gate, message⟩]) :=
  h.quiet rfl rfl rfl (by simp [traces, Event.record?, hl])

theorem fail (h : OnTrail g p events) (e : FormatError) : OnTrail g (p.fail e) events := by
  have hfail : OnTrail g (p.fail e) (events ++ []) :=
    h.quiet rfl rfl (List.append_nil _).symm rfl
  rwa [List.append_nil] at hfail

theorem asked (h : OnTrail g p events) (step : Step) (prompt : String) (reply : Reply) (c : σ) :
    OnTrail g (p.asked step prompt reply c) (events ++ [.asked step prompt reply]) :=
  h.quiet rfl rfl rfl rfl

theorem stored (h : OnTrail g p events) (contents : String)
    (result : Except AtomicWrite.WriteError Unit) (d : Disk) :
    OnTrail g (p.stored contents result d) (events ++ .wrote ⟨p.path, contents⟩ result ::
      (AtomicWrite.records ⟨p.path, contents⟩ result).map .record) := by
  refine h.quiet rfl rfl rfl ?_
  cases result <;> rfl

theorem reformatted (h : OnTrail g p events) (result : Except FormatError Unit) (f : τ) (d : Disk) :
    OnTrail g (p.reformatted result f d) (events ++ [.formatted p.path result]) :=
  h.quiet rfl rfl rfl rfl

end OnTrail
/-! ## Ends of a run -/

/-- What the result of a run says, given the states it passed through. -/
def EndsWell (path : String) (trail : List GateState) (events : List Event) (state : GateState) :
    Except GateError Outcome → Prop
  | .ok o =>
    o.path = path ∧ o.trail = trail ∧ o.state = state ∧ state.terminal ∧
      (o.written = true ↔ .written ∈ trail) ∧
      (o.formatError.isSome ↔ state = .formatFailed) ∧
      ∀ e, o.formatError = some e → .formatted path (.error e) ∈ events
  | .error (.confirm e) =>
    ∃ step prompt reply, (actions events).getLast? = some (.asked step prompt reply) ∧
      reply.answer = .error e ∧ state = step.awaiting
  | .error (.write e) =>
    state = .writeFailed ∧ ∃ job, (actions events).getLast? = some (.wrote job (.error e))

/-- The trail of a run follows the diagram and ends in the gate's state, its trace
records are the moves along it, and the result tells where it ended. -/
def Traced (g : Gate σ τ) (path : String) (r : Gate.Result σ τ) : Prop :=
  ∃ trail events, r.2.events = g.events ++ events ∧
    trail.head? = some .idle ∧ trail.Nodup ∧ trail.IsChain GateState.Move ∧
    trail.getLast? = some r.2.state ∧ traces events = moveRecords path trail ∧
    EndsWell path trail events r.2.state r.1

theorem OnTrail.traced_of {g : Gate σ τ} {p : Passage σ τ} {events : List Event}
    {result : Except GateError Outcome} (h : OnTrail g p events)
    (hend : EndsWell p.path p.outcome.trail events p.gate.state result) :
    Traced g p.path (result, p.gate) :=
  ⟨p.outcome.trail, events, h.logged, h.first, GateState.nodup_of_moves h.moves, h.moves, h.last,
    h.traced, hend⟩

theorem OnTrail.finish {g : Gate σ τ} {p : Passage σ τ} {events : List Event}
    (h : OnTrail g p events) (hterminal : p.gate.state.terminal)
    (hfailed : p.outcome.formatError.isSome ↔ p.gate.state = .formatFailed)
    (herror : ∀ e, p.outcome.formatError = some e → .formatted p.path (.error e) ∈ events) :
    Traced g p.path p.finish :=
  h.traced_of ⟨rfl, rfl, h.state, hterminal, h.written, hfailed, herror⟩

/-! ## Stages -/

section Stages

variable {g : Gate σ τ} {p : Passage σ τ} {events : List Event}

/-- Declining is an end at either question. -/
theorem OnTrail.decline (h : OnTrail g p events) (hmove : GateState.Move p.gate.state .aborted)
    (hnone : p.outcome.formatError = none) (message : String) :
    Traced g p.path ((p.note .info message).enter .aborted).finish := by
  have hend := (h.note .info message (by decide)).enter_other hmove (by decide)
  refine hend.finish (fun s hs => by cases hs) ?_ ?_
  · show p.outcome.formatError.isSome ↔ GateState.aborted = .formatFailed
    simp [hnone]
  · intro e he
    have he : p.outcome.formatError = some e := he
    simp [hnone] at he

/-- A question that fails leaves the gate in the state of that question. -/
theorem OnTrail.unanswered (h : OnTrail g p events) {step : Step} (prompt : String) {reply : Reply}
    (c : σ) {e : IoError} (hr : reply.answer = .error e) (hs : p.gate.state = step.awaiting) :
    Traced g p.path ((p.asked step prompt reply c).stop (.confirm e)) := by
  have hend := h.asked step prompt reply c
  refine hend.traced_of ⟨step, prompt, reply, ?_, hr, hs⟩
  rw [actions_append]
  exact List.getLast?_concat

variable [Confirmer σ] [Formatter τ]

omit [Confirmer σ] in
theorem OnTrail.format (h : OnTrail g p events) (hs : p.gate.state = .awaitingFormat)
    (hnone : p.outcome.formatError = none) : Traced g p.path p.format := by
  rcases hran : Formatter.format p.gate.formatter p.path p.gate.disk with ⟨result, f, d⟩
  have hran' := h.reformatted result f d
  rw [Passage.format, reformat_eq hran]
  cases result with
  | ok u =>
    have hmove : GateState.Move p.gate.state .formatted := hs ▸ .format
    have hend := (hran'.note .info ("formatted " ++ p.path) (by decide)).enter_other
      hmove (by decide)
    refine hend.finish (fun s hs => by cases hs) ?_ ?_
    · show p.outcome.formatError.isSome ↔ GateState.formatted = .formatFailed
      simp [hnone]
    · intro e he
      have he : p.outcome.formatError = some e := he
      simp [hnone] at he
  | error e =>
    have hmove : GateState.Move p.gate.state .formatFailed := hs ▸ .failFormat
    have hend := ((hran'.note .warn e.text (by decide)).fail e).enter_other
      hmove (by decide)
    refine hend.finish (fun s hs => by cases hs) ?_ ?_
    · show (some e).isSome ↔ GateState.formatFailed = .formatFailed
      simp
    · intro e' he'
      obtain rfl : e = e' := Option.some.inj he'
      refine List.mem_append_left _ (List.mem_append_left _ (List.mem_append_right _ ?_))
      exact List.mem_cons_self

theorem OnTrail.askFormat (h : OnTrail g p events) (hs : p.gate.state = .written)
    (hnone : p.outcome.formatError = none) : Traced g p.path p.askFormat := by
  have hmove : GateState.Move p.gate.state .awaitingFormat := hs ▸ .askFormat
  have henter := h.enter_other hmove (by decide)
  rcases hask : Confirmer.confirm p.gate.confirmer .format p.formatQuestion with ⟨reply, c⟩
  have hasked := henter.asked .format p.formatQuestion reply c
  rw [p.askFormat_eq hask]
  rcases hr : reply.answer with e | (_ | _)
  · exact henter.unanswered p.formatQuestion c hr rfl
  · exact hasked.decline .declineFormat hnone _
  · exact hasked.format rfl hnone

theorem OnTrail.write (h : OnTrail g p events) (contents : String)
    (hs : p.gate.state = .awaitingWrite) (hnone : p.outcome.formatError = none) :
    Traced g p.path (p.write contents) := by
  rcases hwrote : AtomicWrite.run ⟨p.path, contents⟩ p.gate.disk with ⟨result, d⟩
  have hstored := h.stored contents result d
  cases result with
  | error e =>
    have hmove : GateState.Move p.gate.state .writeFailed := hs ▸ .failWrite
    have hend := hstored.enter_other hmove (by decide)
    rw [Passage.write, store_eq hwrote]
    refine hend.traced_of ⟨rfl, ⟨p.path, contents⟩, ?_⟩
    simp [actions, Event.isAction, AtomicWrite.records]
  | ok u =>
    have hmove : GateState.Move p.gate.state .written := hs ▸ .write
    have hwritten := (hstored.enter hmove (w := true) (by simp)).note .info
      ("wrote " ++ p.path) (by decide)
    rw [p.write_done hwrote]
    exact hwritten.askFormat rfl hnone

theorem OnTrail.askWrite (h : OnTrail g p events) (contents : String)
    (hs : p.gate.state = .idle) (hnone : p.outcome.formatError = none) :
    Traced g p.path (p.askWrite contents) := by
  have hmove : GateState.Move p.gate.state .awaitingWrite := hs ▸ .ask
  have henter := h.enter_other hmove (by decide)
  rcases hask : Confirmer.confirm p.gate.confirmer .write p.writeQuestion with ⟨reply, c⟩
  have hasked := henter.asked .write p.writeQuestion reply c
  rw [p.askWrite_eq contents hask]
  rcases hr : reply.answer with e | (_ | _)
  · exact henter.unanswered p.writeQuestion c hr rfl
  · exact hasked.decline .declineWrite hnone _
  · exact hasked.write contents rfl hnone

end Stages

end Passage

/-! ## Runs -/

namespace Gate

variable [Confirmer σ] [Formatter τ]

/-- A path is made absolute unless that takes a current directory that is gone. -/
theorem absolute_of_available {d : Disk} {path : String}
    (h : Path.isAbsolute path = true ∨ d.tree.isDirectoryAt d.tree.current = true) :
    ∃ full, d.absolute path = .ok full := by
  rw [Disk.absolute]
  by_cases habs : Path.isAbsolute path = true
  · exact ⟨path, if_pos habs⟩
  · have hdir : d.tree.isDirectoryAt d.tree.current = true := h.resolve_left habs
    rw [if_neg habs, FileTree.currentDirectory, if_pos hdir]
    exact ⟨_, rfl⟩

/-- The trail, the states and the log that a run leaves agree, and its events are
what really happened. -/
def TrailKept (g : Gate σ τ) (path _contents : String) (r : Result σ τ) : Prop :=
  Path.isAbsolute path = true ∨ g.disk.tree.isDirectoryAt g.disk.tree.current = true →
    ∃ full, g.disk.absolute path = .ok full ∧ Passage.Traced g full r ∧
      ∀ events, r.2.events = g.events ++ events → Replay g.world (actions events) r.2.world

theorem run_trailKept (g : Gate σ τ) (path contents : String) :
    g.TrailKept path contents (g.run path contents) := by
  intro havailable
  obtain ⟨full, hfull⟩ := absolute_of_available havailable
  refine ⟨full, hfull, ?_, ?_⟩
  · have hrun : g.run path contents = (Passage.start g full).askWrite contents := by
      simp only [run, hfull]
    rw [hrun]
    exact (Passage.OnTrail.start g full).askWrite contents rfl rfl
  · intro events hevents
    obtain ⟨acts, w, ⟨⟨events', hevents', rfl⟩, rfl⟩, hcourse⟩ := g.run_course contents hfull
    obtain rfl : events = events' := List.append_cancel_left (hevents.symm.trans hevents')
    exact hcourse.replay

/-- Through any number of runs the states of the gate, of the outcomes and of the
log agree with the diagram. -/
theorem everyRun_trailKept (g : Gate σ τ) (files : List (String × String)) :
    EveryRun TrailKept g files :=
  everyRun_of_run run_trailKept files g

end Gate
end NodeGen
