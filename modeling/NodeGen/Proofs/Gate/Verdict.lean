/-
What a run returns.

The actions of a run decide its result.  `Verdict` has a case for each way a run can
end, and `Course.verdict` says which of them goes with the course that a run takes.
-/
import NodeGen.Proofs.Gate.Conduct

namespace NodeGen

variable {σ τ : Type}

/-- The outcome is for this path, with this state and this flag. -/
structure Outcome.Says (o : Outcome) (path : String) (state : GateState) (written : Bool) :
    Prop where
  path : o.path = path
  state : o.state = state
  written : o.written = written

/-- The result that goes with the actions of a run. -/
inductive Verdict (path contents : String) : List Event → Except GateError Outcome → Prop where
  | declinedWrite {prompt : String} {reply : Reply} {o : Outcome}
      (answer : reply.answer = .ok false) (told : o.Says path .aborted false) :
      Verdict path contents [.asked .write prompt reply] (.ok o)
  | unansweredWrite {prompt : String} {reply : Reply} {e : IoError}
      (answer : reply.answer = .error e) :
      Verdict path contents [.asked .write prompt reply] (.error (.confirm e))
  | failedWrite {prompt : String} {reply : Reply} {e : AtomicWrite.WriteError} :
      Verdict path contents
        [.asked .write prompt reply, .wrote ⟨path, contents⟩ (.error e)] (.error (.write e))
  | declinedFormat {prompt prompt' : String} {reply reply' : Reply} {o : Outcome}
      (answer : reply'.answer = .ok false) (told : o.Says path .aborted true) :
      Verdict path contents
        [.asked .write prompt reply, .wrote ⟨path, contents⟩ (.ok ()),
          .asked .format prompt' reply'] (.ok o)
  | unansweredFormat {prompt prompt' : String} {reply reply' : Reply} {e : IoError}
      (answer : reply'.answer = .error e) :
      Verdict path contents
        [.asked .write prompt reply, .wrote ⟨path, contents⟩ (.ok ()),
          .asked .format prompt' reply'] (.error (.confirm e))
  | formatted {prompt prompt' : String} {reply reply' : Reply} {o : Outcome}
      (told : o.Says path .formatted true) :
      Verdict path contents
        [.asked .write prompt reply, .wrote ⟨path, contents⟩ (.ok ()),
          .asked .format prompt' reply', .formatted path (.ok ())] (.ok o)
  | formatFailed {prompt prompt' : String} {reply reply' : Reply} {e : FormatError} {o : Outcome}
      (told : o.Says path .formatFailed true) :
      Verdict path contents
        [.asked .write prompt reply, .wrote ⟨path, contents⟩ (.ok ()),
          .asked .format prompt' reply', .formatted path (.error e)] (.ok o)

namespace Passage

/-! ## Results of the stages -/

/-- The result of a question that was not answered with yes. -/
def Refused (path : String) (written : Bool) (reply : Reply) (r : Except GateError Outcome) :
    Prop :=
  (∃ e, reply.answer = .error e ∧ r = .error (.confirm e)) ∨
    reply.answer = .ok false ∧ ∃ o, r = .ok o ∧ o.Says path .aborted written

theorem format_result [Formatter τ] {p : Passage σ τ} {result : Except FormatError Unit} {f : τ}
    {d : Disk} (h : Formatter.format p.gate.formatter p.path p.gate.disk = (result, f, d)) :
    ∃ o, p.format.1 = .ok o ∧ o.Says p.path
      (match result with | .ok _ => .formatted | .error _ => .formatFailed) p.outcome.written := by
  rw [format, reformat_eq h]
  cases result with
  | ok u => exact ⟨_, rfl, rfl, rfl, rfl⟩
  | error e => exact ⟨_, rfl, rfl, rfl, rfl⟩

variable [Confirmer σ] [Formatter τ]

theorem askFormat_result {p : Passage σ τ} {reply : Reply} {c : σ}
    (h : Confirmer.confirm p.gate.confirmer .format p.formatQuestion = (reply, c))
    (hr : reply.answer ≠ .ok true) :
    Refused p.path p.outcome.written reply p.askFormat.1 := by
  rw [askFormat_eq h]
  rcases hr' : reply.answer with e | (_ | _)
  · exact .inl ⟨e, hr', rfl⟩
  · exact .inr ⟨hr', _, rfl, rfl, rfl, rfl⟩
  · exact absurd hr' hr

theorem askWrite_result {p : Passage σ τ} {contents : String} {reply : Reply} {c : σ}
    (h : Confirmer.confirm p.gate.confirmer .write p.writeQuestion = (reply, c))
    (hr : reply.answer ≠ .ok true) :
    Refused p.path p.outcome.written reply (p.askWrite contents).1 := by
  rw [askWrite_eq contents h]
  rcases hr' : reply.answer with e | (_ | _)
  · exact .inl ⟨e, hr', rfl⟩
  · exact .inr ⟨hr', _, rfl, rfl, rfl, rfl⟩
  · exact absurd hr' hr

theorem write_error {p : Passage σ τ} {contents : String} {e : AtomicWrite.WriteError} {d : Disk}
    (h : AtomicWrite.run ⟨p.path, contents⟩ p.gate.disk = (.error e, d)) :
    (p.write contents).1 = .error (.write e) := by
  rw [write, store_eq h]
  rfl

end Passage

/-! ## Results of runs -/

variable [Confirmer σ] [Formatter τ]

theorem Course.verdict {g : Gate σ τ} {path full contents : String} {acts : List Event}
    {w : World σ τ} (h : g.disk.absolute path = .ok full)
    (hcourse : Course g.world full contents acts w) :
    Verdict full contents acts (g.run path contents).1 := by
  let p := Passage.start g full
  have hrun : g.run path contents = p.askWrite contents := by simp only [Gate.run, h, p]
  rw [hrun]
  cases hcourse with
  | refusedWrite asked refused =>
    rcases p.askWrite_result asked refused with ⟨e, he, hresult⟩ | ⟨hno, o, hresult, hsays⟩
    · rw [hresult]
      exact .unansweredWrite he
    · rw [hresult]
      exact .declinedWrite hno hsays
  | @failedWrite reply c e d asked agreed wrote =>
    let q := (p.enter .awaitingWrite).asked .write p.writeQuestion reply c
    have hresult : (q.write contents).1 = .error (.write e) := q.write_error wrote
    rw [p.askWrite_confirmed asked agreed, hresult]
    exact .failedWrite
  | @refusedFormat reply reply' c c' d prompt asked agreed wrote prompt_eq asked' refused =>
    subst prompt_eq
    let q := (p.enter .awaitingWrite).asked .write p.writeQuestion reply c
    rw [p.askWrite_confirmed asked agreed, q.write_done wrote]
    rcases (q.written contents d).askFormat_result asked' refused with
      ⟨e, he, hresult⟩ | ⟨hno, o, hresult, hsays⟩
    · rw [hresult]
      exact .unansweredFormat he
    · rw [hresult]
      exact .declinedFormat hno hsays
  | @formatted reply reply' c c' d d' prompt result f asked agreed wrote prompt_eq asked' agreed'
      ran =>
    subst prompt_eq
    let q := (p.enter .awaitingWrite).asked .write p.writeQuestion reply c
    let r := ((q.written contents d).enter .awaitingFormat).asked .format
      (q.written contents d).formatQuestion reply' c'
    obtain ⟨o, hresult, hsays⟩ := r.format_result ran
    rw [p.askWrite_confirmed asked agreed, q.write_done wrote,
      (q.written contents d).askFormat_confirmed asked' agreed', hresult]
    cases result with
    | ok u => exact .formatted hsays
    | error e => exact .formatFailed hsays

end NodeGen
