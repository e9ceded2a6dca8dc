/-
A formatter that does not run.

Before it runs, all that a gate knows of its formatter is the command line that it shows
in a question.  So a gate whose formatter did not run does the same with any other
formatter that has these command lines, with the same result, the same events and the
same disk after it.  The stages go from the last to the first, and formatting itself is
the one where the other formatter would show.
-/
import NodeGen.Proofs.Gate.Conduct

namespace NodeGen

variable {σ τ : Type}

/-- The gate with another formatter. -/
def Gate.withFormatter (g : Gate σ τ) (f : τ) : Gate σ τ := { g with formatter := f }

/-- The same result, and the gate with another formatter. -/
def Gate.Result.withFormatter (r : Gate.Result σ τ) (f : τ) : Gate.Result σ τ :=
  (r.1, r.2.withFormatter f)

/-- No formatter runs in these events. -/
def Unformatted (events : List Event) : Prop := ∀ path result, .formatted path result ∉ events

/-- The formatters show the same command lines to the operator. -/
def SameCommand [Formatter τ] (f f' : τ) : Prop :=
  ∀ path, Formatter.command f path = Formatter.command f' path

namespace Passage

def withFormatter (p : Passage σ τ) (f : τ) : Passage σ τ :=
  { p with gate := p.gate.withFormatter f }

theorem format_formats [Formatter τ] (p : Passage σ τ) : ¬ Unformatted p.format.2.events := by
  rcases hran : Formatter.format p.gate.formatter p.path p.gate.disk with ⟨result, f, d⟩
  obtain ⟨⟨events, hevents, hacts⟩, -⟩ := p.format_does hran
  intro hno
  refine hno p.path result ?_
  rw [hevents]
  exact List.mem_append_right _ (mem_of_mem_actions (hacts ▸ List.mem_cons_self))

variable [Confirmer σ] [Formatter τ] {p : Passage σ τ} {f : τ}

theorem askFormat_withFormatter (hf : SameCommand f p.gate.formatter)
    (hno : Unformatted p.askFormat.2.events) :
    (p.withFormatter f).askFormat = p.askFormat.withFormatter f := by
  rcases hask : Confirmer.confirm p.gate.confirmer .format p.formatQuestion with ⟨reply, c⟩
  by_cases hr : reply.answer = .ok true
  case pos =>
    rw [askFormat_confirmed hask hr] at hno
    exact absurd hno (format_formats _)
  have hquestion : (p.withFormatter f).formatQuestion = p.formatQuestion :=
    congrArg Gate.formatPrompt (hf p.path)
  have hask' : Confirmer.confirm (p.withFormatter f).gate.confirmer .format
      (p.withFormatter f).formatQuestion = (reply, c) := hquestion ▸ hask
  rw [askFormat_eq hask, askFormat_eq hask', hquestion]
  rcases hr' : reply.answer with e | (_ | _)
  · rfl
  · rfl
  · exact absurd hr' hr

theorem write_withFormatter (contents : String) (hf : SameCommand f p.gate.formatter)
    (hno : Unformatted (p.write contents).2.events) :
    (p.withFormatter f).write contents = (p.write contents).withFormatter f := by
  rcases hwrote : AtomicWrite.run ⟨p.path, contents⟩ p.gate.disk with ⟨_ | _, d⟩
  case error e =>
    have hwrote' : AtomicWrite.run ⟨(p.withFormatter f).path, contents⟩
        (p.withFormatter f).gate.disk = (.error e, d) := hwrote
    rw [write, write, store_eq hwrote, store_eq hwrote']
    rfl
  case ok u =>
    have hwrote' : AtomicWrite.run ⟨(p.withFormatter f).path, contents⟩
        (p.withFormatter f).gate.disk = (.ok (), d) := hwrote
    rw [write_done hwrote] at hno ⊢
    rw [write_done hwrote']
    exact askFormat_withFormatter (p := p.written contents d) hf hno

theorem askWrite_withFormatter (contents : String) (hf : SameCommand f p.gate.formatter)
    (hno : Unformatted (p.askWrite contents).2.events) :
    (p.withFormatter f).askWrite contents = (p.askWrite contents).withFormatter f := by
  rcases hask : Confirmer.confirm p.gate.confirmer .write p.writeQuestion with ⟨reply, c⟩
  have hask' : Confirmer.confirm (p.withFormatter f).gate.confirmer .write
      (p.withFormatter f).writeQuestion = (reply, c) := hask
  by_cases hr : reply.answer = .ok true
  case pos =>
    rw [askWrite_confirmed hask hr] at hno ⊢
    rw [askWrite_confirmed hask' hr]
    exact write_withFormatter (p := (p.enter .awaitingWrite).asked .write p.writeQuestion reply c)
      contents hf hno
  rw [askWrite_eq contents hask, askWrite_eq contents hask']
  rcases hr' : reply.answer with e | (_ | _)
  · rfl
  · rfl
  · exact absurd hr' hr

end Passage

/-! ## Runs -/

theorem Gate.run_withFormatter [Confirmer σ] [Formatter τ] {g g' : Gate σ τ} {f : τ}
    {path contents : String} {r : Except GateError Outcome}
    (h : g.run path contents = (r, g')) (hf : SameCommand f g.formatter)
    (hno : Unformatted g'.events) :
    (g.withFormatter f).run path contents = (r, g'.withFormatter f) := by
  have hdisk : (g.withFormatter f).disk.absolute path = g.disk.absolute path := rfl
  cases hfull : g.disk.absolute path with
  | error e =>
    simp only [run, hfull] at h
    cases h
    simp only [run, hdisk, hfull]
  | ok full =>
    simp only [run, hfull] at h
    simp only [run, hdisk, hfull]
    have hevents : Unformatted ((Passage.start g full).askWrite contents).2.events := by
      rw [h]
      exact hno
    have hsame := Passage.askWrite_withFormatter (p := Passage.start g full) contents hf hevents
    rw [h] at hsame
    exact hsame

end NodeGen
