/-
Nothing happens to a file without consent.

Within one run the gate writes only after the operator agreed to the write, and
formats only after the operator agreed to that.  `Conduct` says for each answer
and each result of the write which actions the run takes and what becomes of the
disk.  All of this holds for every confirmer, every formatter and every disk, and
of every run in a sequence of runs on one gate.
-/
import NodeGen.Proofs.Gate.Conduct

namespace NodeGen

variable {σ τ : Type} [Confirmer σ] [Formatter τ]

/-- What a run does, for each way its questions and its write can come out.  An
answer that is not yes is a no or a failure to answer. -/
structure Conduct (w : World σ τ) (path contents : String) (acts : List Event) (w' : World σ τ) :
    Prop where
  /-- Without consent to the write, the disk and the formatter are as they were,
  and no other question is asked. -/
  refusedWrite {reply : Reply} {c : σ} :
    Confirmer.confirm w.confirmer .write (Gate.writePrompt path) = (reply, c) →
    reply.answer ≠ .ok true →
    acts = [.asked .write (Gate.writePrompt path) reply] ∧ w' = ⟨c, w.formatter, w.disk⟩
  /-- Without consent to the formatting, the file is written and that is all. -/
  refusedFormat {reply reply' : Reply} {c c' : σ} {d : Disk} {prompt : String} :
    Confirmer.confirm w.confirmer .write (Gate.writePrompt path) = (reply, c) →
    reply.answer = .ok true →
    AtomicWrite.run ⟨path, contents⟩ w.disk = (.ok (), d) →
    prompt = Gate.formatPrompt (Formatter.command w.formatter path) →
    Confirmer.confirm c .format prompt = (reply', c') →
    reply'.answer ≠ .ok true →
    acts = [.asked .write (Gate.writePrompt path) reply, .wrote ⟨path, contents⟩ (.ok ()),
      .asked .format prompt reply'] ∧ w' = ⟨c', w.formatter, d⟩
  /-- After a failed write, nothing is asked and nothing is formatted. -/
  failedWrite {reply : Reply} {c : σ} {e : AtomicWrite.WriteError} {d : Disk} :
    Confirmer.confirm w.confirmer .write (Gate.writePrompt path) = (reply, c) →
    reply.answer = .ok true →
    AtomicWrite.run ⟨path, contents⟩ w.disk = (.error e, d) →
    acts = [.asked .write (Gate.writePrompt path) reply, .wrote ⟨path, contents⟩ (.error e)] ∧
      w' = ⟨c, w.formatter, d⟩
  /-- With consent to both, the formatter runs once, over the written file. -/
  formatted {reply reply' : Reply} {c c' : σ} {d d' : Disk} {prompt : String}
      {result : Except FormatError Unit} {f : τ} :
    Confirmer.confirm w.confirmer .write (Gate.writePrompt path) = (reply, c) →
    reply.answer = .ok true →
    AtomicWrite.run ⟨path, contents⟩ w.disk = (.ok (), d) →
    prompt = Gate.formatPrompt (Formatter.command w.formatter path) →
    Confirmer.confirm c .format prompt = (reply', c') →
    reply'.answer = .ok true →
    Formatter.format w.formatter path d = (result, f, d') →
    acts = [.asked .write (Gate.writePrompt path) reply, .wrote ⟨path, contents⟩ (.ok ()),
      .asked .format prompt reply', .formatted path result] ∧ w' = ⟨c', f, d'⟩

theorem Course.conduct {w w' : World σ τ} {path contents : String} {acts : List Event}
    (h : Course w path contents acts w') : Conduct w path contents acts w' where
  refusedWrite asked refused := h.unique (.refusedWrite asked refused)
  refusedFormat asked agreed wrote prompt_eq asked' refused :=
    h.unique (.refusedFormat asked agreed wrote prompt_eq asked' refused)
  failedWrite asked agreed wrote := h.unique (.failedWrite asked agreed wrote)
  formatted asked agreed wrote prompt_eq asked' agreed' ran :=
    h.unique (.formatted asked agreed wrote prompt_eq asked' agreed' ran)

/-- A run takes its actions in the order of its events, each only after the
operator agreed to it, and it takes none before it knows its path. -/
def Gate.ConsentKept (g : Gate σ τ) (path contents : String) (r : Gate.Result σ τ) : Prop :=
  ∃ events, r.2.events = g.events ++ events ∧ Consented events ∧
    Replay g.world (actions events) r.2.world ∧
    (∀ e, g.disk.absolute path = .error e →
      events = [] ∧ r = (.error (.write ⟨path, e⟩), g)) ∧
    ∀ full, g.disk.absolute path = .ok full →
      Conduct g.world full contents (actions events) r.2.world

theorem Gate.run_consentKept (g : Gate σ τ) (path contents : String) :
    g.ConsentKept path contents (g.run path contents) := by
  cases h : g.disk.absolute path with
  | error e =>
    have hrun : g.run path contents = (.error (.write ⟨path, e⟩), g) := by simp only [run, h]
    rw [hrun]
    refine ⟨[], by simp, consented_nil, .done _, ?_, ?_⟩
    · intro e' he'
      obtain rfl : e = e' := by simpa [h] using he'
      exact ⟨rfl, rfl⟩
    · intro full hfull
      simp [h] at hfull
  | ok full =>
    obtain ⟨acts, w, ⟨⟨events, hevents, rfl⟩, rfl⟩, hcourse⟩ := g.run_course contents h
    refine ⟨events, hevents, consented_of_actions hcourse.consented, hcourse.replay, ?_, ?_⟩
    · intro e he
      simp [h] at he
    · intro full' hfull
      obtain rfl : full = full' := by simpa [h] using hfull
      exact hcourse.conduct

/-- The gate acts with consent only, through any number of runs. -/
theorem Gate.everyRun_consentKept (g : Gate σ τ) (files : List (String × String)) :
    EveryRun ConsentKept g files :=
  everyRun_of_run run_consentKept files g

end NodeGen
