/-
The courses of a run.

A run asks, writes, asks again and formats, and stops at the first of these that
does not come out well.  Each stage of a run has a lemma for each way it can go
on, which says what the gate does from there and in which world that leaves it.
The lemmas go from the last stage to the first, like the stages themselves.
`Gate.run_course` puts them together: a run takes one of four courses, and what
it acts on decides which.
-/
import NodeGen.Proofs.Gate.Replay

namespace NodeGen

variable {σ τ : Type}

/-- Between the two gates exactly these actions were taken, and the second one
has this world. -/
structure Gate.Does (g g' : Gate σ τ) (acts : List Event) (w : World σ τ) : Prop where
  events : ∃ events, g'.events = g.events ++ events ∧ actions events = acts
  world : g'.world = w

theorem Gate.Does.trans {g g' g'' : Gate σ τ} {a b : List Event} {w w' : World σ τ}
    (h : g.Does g' a w) (h' : g'.Does g'' b w') : g.Does g'' (a ++ b) w' := by
  obtain ⟨es, he, ha⟩ := h.events
  obtain ⟨es', he', ha'⟩ := h'.events
  refine ⟨⟨es ++ es', ?_, ?_⟩, h'.world⟩
  · rw [he', he, List.append_assoc]
  · rw [actions_append, ha, ha']

namespace Passage

/-! ## Steps -/

theorem note_does (p : Passage σ τ) (level : Level) (message : String) :
    p.gate.Does (p.note level message).gate [] p.gate.world :=
  ⟨⟨_, rfl, rfl⟩, rfl⟩

theorem enter_does (p : Passage σ τ) (s : GateState) :
    p.gate.Does (p.enter s).gate [] p.gate.world :=
  ⟨⟨_, rfl, rfl⟩, rfl⟩

theorem fail_does (p : Passage σ τ) (e : FormatError) :
    p.gate.Does (p.fail e).gate [] p.gate.world :=
  ⟨⟨[], (List.append_nil _).symm, rfl⟩, rfl⟩

theorem note_enter_does (p : Passage σ τ) (level : Level) (message : String) (s : GateState) :
    p.gate.Does ((p.note level message).enter s).gate [] p.gate.world :=
  (p.note_does level message).trans (enter_does _ s)

/-- The run after a question that got this reply. -/
def asked (p : Passage σ τ) (step : Step) (prompt : String) (reply : Reply) (c : σ) :
    Passage σ τ :=
  { p with gate := { p.gate.add [.asked step prompt reply] with confirmer := c } }

theorem asked_does (p : Passage σ τ) (step : Step) (prompt : String) (reply : Reply) (c : σ) :
    p.gate.Does (p.asked step prompt reply c).gate [.asked step prompt reply]
      ⟨c, p.gate.formatter, p.gate.disk⟩ :=
  ⟨⟨_, rfl, rfl⟩, rfl⟩

theorem ask_eq [Confirmer σ] {p : Passage σ τ} {step : Step} {prompt : String} {reply : Reply}
    {c : σ} (h : Confirmer.confirm p.gate.confirmer step prompt = (reply, c)) :
    p.ask step prompt = (reply.answer, p.asked step prompt reply c) := by
  simp only [ask, h, asked]

/-- The run after a write that came out like this. -/
def stored (p : Passage σ τ) (contents : String) (result : Except AtomicWrite.WriteError Unit)
    (d : Disk) : Passage σ τ :=
  let job : AtomicWrite.Job := ⟨p.path, contents⟩
  { p with
    gate := { p.gate.add (.wrote job result :: (AtomicWrite.records job result).map .record) with
      disk := d } }

theorem stored_does (p : Passage σ τ) (contents : String)
    (result : Except AtomicWrite.WriteError Unit) (d : Disk) :
    p.gate.Does (p.stored contents result d).gate [.wrote ⟨p.path, contents⟩ result]
      ⟨p.gate.confirmer, p.gate.formatter, d⟩ := by
  refine ⟨⟨_, rfl, ?_⟩, rfl⟩
  rw [actions, List.filter_cons_of_pos rfl]
  exact congrArg _ (actions_records _)

theorem store_eq {p : Passage σ τ} {contents : String}
    {result : Except AtomicWrite.WriteError Unit} {d : Disk}
    (h : AtomicWrite.run ⟨p.path, contents⟩ p.gate.disk = (result, d)) :
    p.store contents = (result, p.stored contents result d) := by
  simp only [store, h, stored]

/-- The run after the formatter ran and came out like this. -/
def reformatted (p : Passage σ τ) (result : Except FormatError Unit) (f : τ) (d : Disk) :
    Passage σ τ :=
  { p with gate := { p.gate.add [.formatted p.path result] with formatter := f, disk := d } }

theorem reformatted_does (p : Passage σ τ) (result : Except FormatError Unit) (f : τ) (d : Disk) :
    p.gate.Does (p.reformatted result f d).gate [.formatted p.path result]
      ⟨p.gate.confirmer, f, d⟩ :=
  ⟨⟨_, rfl, rfl⟩, rfl⟩

theorem reformat_eq [Formatter τ] {p : Passage σ τ} {result : Except FormatError Unit} {f : τ}
    {d : Disk} (h : Formatter.format p.gate.formatter p.path p.gate.disk = (result, f, d)) :
    p.reformat = (result, p.reformatted result f d) := by
  simp only [reformat, h, reformatted]

/-! ## Stages -/

theorem format_does [Formatter τ] {p : Passage σ τ} {result : Except FormatError Unit} {f : τ}
    {d : Disk} (h : Formatter.format p.gate.formatter p.path p.gate.disk = (result, f, d)) :
    p.gate.Does p.format.2 [.formatted p.path result] ⟨p.gate.confirmer, f, d⟩ := by
  rw [format, reformat_eq h]
  refine (p.reformatted_does result f d).trans ?_
  cases result with
  | ok u => exact note_enter_does _ _ _ _
  | error e => exact (note_does _ _ _).trans ((fail_does _ _).trans (enter_does _ _))

variable [Confirmer σ] [Formatter τ]

theorem askFormat_eq {p : Passage σ τ} {reply : Reply} {c : σ}
    (h : Confirmer.confirm p.gate.confirmer .format p.formatQuestion = (reply, c)) :
    p.askFormat =
      let q := (p.enter .awaitingFormat).asked .format p.formatQuestion reply c
      match reply.answer with
      | .error e => q.stop (.confirm e)
      | .ok false => ((q.note .info ("left " ++ p.path ++ " unformatted")).enter .aborted).finish
      | .ok true => q.format := by
  have hask : (p.enter .awaitingFormat).ask .format (p.enter .awaitingFormat).formatQuestion =
      (reply.answer, (p.enter .awaitingFormat).asked .format p.formatQuestion reply c) := ask_eq h
  rw [askFormat]
  simp only [hask]
  rcases reply.answer with e | (_ | _) <;> rfl

theorem askFormat_refused {p : Passage σ τ} {reply : Reply} {c : σ}
    (h : Confirmer.confirm p.gate.confirmer .format p.formatQuestion = (reply, c))
    (hr : reply.answer ≠ .ok true) :
    p.gate.Does p.askFormat.2 [.asked .format p.formatQuestion reply]
      ⟨c, p.gate.formatter, p.gate.disk⟩ := by
  rw [askFormat_eq h]
  refine (p.enter_does .awaitingFormat).trans ((asked_does _ _ _ reply c).trans ?_)
  rcases hr' : reply.answer with e | (_ | _)
  · exact ⟨⟨[], by simp [stop], rfl⟩, rfl⟩
  · exact note_enter_does _ _ _ _
  · exact absurd hr' hr

theorem askFormat_confirmed {p : Passage σ τ} {reply : Reply} {c : σ}
    (h : Confirmer.confirm p.gate.confirmer .format p.formatQuestion = (reply, c))
    (hr : reply.answer = .ok true) :
    p.askFormat = ((p.enter .awaitingFormat).asked .format p.formatQuestion reply c).format := by
  simp only [askFormat_eq h, hr]

theorem askFormat_does {p : Passage σ τ} {reply : Reply} {c : σ}
    {result : Except FormatError Unit} {f : τ} {d : Disk}
    (h : Confirmer.confirm p.gate.confirmer .format p.formatQuestion = (reply, c))
    (hr : reply.answer = .ok true)
    (hf : Formatter.format p.gate.formatter p.path p.gate.disk = (result, f, d)) :
    p.gate.Does p.askFormat.2
      [.asked .format p.formatQuestion reply, .formatted p.path result] ⟨c, f, d⟩ := by
  rw [askFormat_confirmed h hr]
  exact (p.enter_does .awaitingFormat).trans ((asked_does _ _ _ reply c).trans (format_does hf))

theorem write_failed {p : Passage σ τ} {contents : String} {e : AtomicWrite.WriteError} {d : Disk}
    (h : AtomicWrite.run ⟨p.path, contents⟩ p.gate.disk = (.error e, d)) :
    p.gate.Does (p.write contents).2 [.wrote ⟨p.path, contents⟩ (.error e)]
      ⟨p.gate.confirmer, p.gate.formatter, d⟩ := by
  rw [write, store_eq h]
  exact (stored_does _ _ _ _).trans (enter_does _ _)

/-- The run where the format question is asked next. -/
def written (p : Passage σ τ) (contents : String) (d : Disk) : Passage σ τ :=
  let p := p.stored contents (.ok ()) d
  let p := { p with outcome := { p.outcome with written := true } }
  (p.enter .written).note .info ("wrote " ++ p.path)

omit [Confirmer σ] [Formatter τ] in
theorem written_does (p : Passage σ τ) (contents : String) (d : Disk) :
    p.gate.Does (p.written contents d).gate [.wrote ⟨p.path, contents⟩ (.ok ())]
      ⟨p.gate.confirmer, p.gate.formatter, d⟩ :=
  (p.stored_does contents (.ok ()) d).trans ((enter_does _ _).trans (note_does _ _ _))

theorem write_done {p : Passage σ τ} {contents : String} {d : Disk}
    (h : AtomicWrite.run ⟨p.path, contents⟩ p.gate.disk = (.ok (), d)) :
    p.write contents = (p.written contents d).askFormat := by
  rw [write, store_eq h]
  rfl

theorem askWrite_eq {p : Passage σ τ} {reply : Reply} {c : σ} (contents : String)
    (h : Confirmer.confirm p.gate.confirmer .write p.writeQuestion = (reply, c)) :
    p.askWrite contents =
      let q := (p.enter .awaitingWrite).asked .write p.writeQuestion reply c
      match reply.answer with
      | .error e => q.stop (.confirm e)
      | .ok false => ((q.note .info ("skipped writing " ++ p.path)).enter .aborted).finish
      | .ok true => q.write contents := by
  have hask : (p.enter .awaitingWrite).ask .write (p.enter .awaitingWrite).writeQuestion =
      (reply.answer, (p.enter .awaitingWrite).asked .write p.writeQuestion reply c) := ask_eq h
  rw [askWrite]
  simp only [hask]
  rcases reply.answer with e | (_ | _) <;> rfl

theorem askWrite_refused {p : Passage σ τ} {contents : String} {reply : Reply} {c : σ}
    (h : Confirmer.confirm p.gate.confirmer .write p.writeQuestion = (reply, c))
    (hr : reply.answer ≠ .ok true) :
    p.gate.Does (p.askWrite contents).2 [.asked .write p.writeQuestion reply]
      ⟨c, p.gate.formatter, p.gate.disk⟩ := by
  rw [askWrite_eq contents h]
  refine (p.enter_does .awaitingWrite).trans ((asked_does _ _ _ reply c).trans ?_)
  rcases hr' : reply.answer with e | (_ | _)
  · exact ⟨⟨[], by simp [stop], rfl⟩, rfl⟩
  · exact note_enter_does _ _ _ _
  · exact absurd hr' hr

theorem askWrite_confirmed {p : Passage σ τ} {contents : String} {reply : Reply} {c : σ}
    (h : Confirmer.confirm p.gate.confirmer .write p.writeQuestion = (reply, c))
    (hr : reply.answer = .ok true) :
    p.askWrite contents =
      ((p.enter .awaitingWrite).asked .write p.writeQuestion reply c).write contents := by
  simp only [askWrite_eq contents h, hr]

end Passage

/-! ## The four courses -/

section Courses

variable [Confirmer σ] [Formatter τ]

/-- The ways a run can go once its path is known, with the actions it takes from
the first world to the last. -/
inductive Course (w : World σ τ) (path contents : String) : List Event → World σ τ → Prop where
  | refusedWrite {reply : Reply} {c : σ}
      (asked : Confirmer.confirm w.confirmer .write (Gate.writePrompt path) = (reply, c))
      (refused : reply.answer ≠ .ok true) :
      Course w path contents [.asked .write (Gate.writePrompt path) reply] ⟨c, w.formatter, w.disk⟩
  | failedWrite {reply : Reply} {c : σ} {e : AtomicWrite.WriteError} {d : Disk}
      (asked : Confirmer.confirm w.confirmer .write (Gate.writePrompt path) = (reply, c))
      (agreed : reply.answer = .ok true)
      (wrote : AtomicWrite.run ⟨path, contents⟩ w.disk = (.error e, d)) :
      Course w path contents
        [.asked .write (Gate.writePrompt path) reply, .wrote ⟨path, contents⟩ (.error e)]
        ⟨c, w.formatter, d⟩
  | refusedFormat {reply reply' : Reply} {c c' : σ} {d : Disk} {prompt : String}
      (asked : Confirmer.confirm w.confirmer .write (Gate.writePrompt path) = (reply, c))
      (agreed : reply.answer = .ok true)
      (wrote : AtomicWrite.run ⟨path, contents⟩ w.disk = (.ok (), d))
      (prompt_eq : prompt = Gate.formatPrompt (Formatter.command w.formatter path))
      (asked' : Confirmer.confirm c .format prompt = (reply', c'))
      (refused : reply'.answer ≠ .ok true) :
      Course w path contents
        [.asked .write (Gate.writePrompt path) reply, .wrote ⟨path, contents⟩ (.ok ()),
          .asked .format prompt reply']
        ⟨c', w.formatter, d⟩
  | formatted {reply reply' : Reply} {c c' : σ} {d d' : Disk} {prompt : String}
      {result : Except FormatError Unit} {f : τ}
      (asked : Confirmer.confirm w.confirmer .write (Gate.writePrompt path) = (reply, c))
      (agreed : reply.answer = .ok true)
      (wrote : AtomicWrite.run ⟨path, contents⟩ w.disk = (.ok (), d))
      (prompt_eq : prompt = Gate.formatPrompt (Formatter.command w.formatter path))
      (asked' : Confirmer.confirm c .format prompt = (reply', c'))
      (agreed' : reply'.answer = .ok true)
      (ran : Formatter.format w.formatter path d = (result, f, d')) :
      Course w path contents
        [.asked .write (Gate.writePrompt path) reply, .wrote ⟨path, contents⟩ (.ok ()),
          .asked .format prompt reply', .formatted path result]
        ⟨c', f, d'⟩

namespace Course

variable {w w' : World σ τ} {path contents : String} {acts : List Event}

theorem replay (h : Course w path contents acts w') : Replay w acts w' := by
  cases h with
  | refusedWrite asked _ => exact .asked asked (.done _)
  | failedWrite asked _ wrote => exact .asked asked (.wrote wrote (.done _))
  | refusedFormat asked _ wrote _ asked' _ =>
    exact .asked asked (.wrote wrote (.asked asked' (.done _)))
  | formatted asked _ wrote _ asked' _ ran =>
    exact .asked asked (.wrote wrote (.asked asked' (.formatted ran (.done _))))

theorem consented (h : Course w path contents acts w') : Consented acts := by
  have hasked (reply : Reply) : Consented [.asked .write (Gate.writePrompt path) reply] :=
    consented_nil.ask .write _ reply
  have hwrote (reply : Reply) (hr : reply.answer = .ok true)
      (result : Except AtomicWrite.WriteError Unit) :
      Consented [.asked .write (Gate.writePrompt path) reply, .wrote ⟨path, contents⟩ result] :=
    (hasked reply).write ⟨_, _, List.mem_cons_self, hr⟩ _ result
  cases h with
  | refusedWrite _ _ => exact hasked _
  | failedWrite _ agreed _ => exact hwrote _ agreed _
  | refusedFormat _ agreed _ _ _ _ => exact (hwrote _ agreed _).ask .format _ _
  | formatted _ agreed _ _ _ agreed' _ =>
    exact ((hwrote _ agreed _).ask .format _ _).format
      ⟨_, _, List.mem_append_right _ List.mem_cons_self, agreed'⟩ _ _

/-- The confirmer, the write and the formatter decide which course it is. -/
theorem unique {acts' : List Event} {w'' : World σ τ} (h : Course w path contents acts w')
    (h' : Course w path contents acts' w'') : acts = acts' ∧ w' = w'' := by
  cases h <;> cases h' <;> simp_all

end Course

theorem Gate.run_unknown {g : Gate σ τ} {path contents : String} {e : IoError}
    (h : g.disk.absolute path = .error e) :
    g.run path contents = (.error (.write ⟨path, e⟩), g) := by
  simp only [run, h]

/-- A run whose path is known takes one of the courses. -/
theorem Gate.run_course {g : Gate σ τ} {path full : String} (contents : String)
    (h : g.disk.absolute path = .ok full) :
    ∃ acts w, g.Does (g.run path contents).2 acts w ∧ Course g.world full contents acts w := by
  let p := Passage.start g full
  have hrun : g.run path contents = p.askWrite contents := by simp only [run, h, p]
  have hstart : g.Does p.gate [] g.world := ⟨⟨[], by simp [p, Passage.start], rfl⟩, rfl⟩
  rw [hrun]
  rcases hask : Confirmer.confirm p.gate.confirmer .write p.writeQuestion with ⟨reply, c⟩
  by_cases hr : reply.answer = .ok true
  case neg =>
    exact ⟨_, _, hstart.trans (p.askWrite_refused hask hr), .refusedWrite hask hr⟩
  rw [p.askWrite_confirmed hask hr]
  have hasked := (p.enter_does .awaitingWrite).trans
    (Passage.asked_does _ .write p.writeQuestion reply c)
  let q := (p.enter .awaitingWrite).asked .write p.writeQuestion reply c
  have hq : g.Does q.gate [.asked .write (Gate.writePrompt full) reply]
      ⟨c, g.formatter, g.disk⟩ := hstart.trans hasked
  rcases hwrote : AtomicWrite.run ⟨full, contents⟩ g.disk with ⟨_ | _, d⟩
  case error e =>
    exact ⟨_, _, hq.trans (q.write_failed hwrote), .failedWrite hask hr hwrote⟩
  rw [q.write_done hwrote]
  have hwritten := hq.trans (q.written_does contents d)
  rcases hask' : Confirmer.confirm c .format (q.written contents d).formatQuestion with
    ⟨reply', c'⟩
  by_cases hr' : reply'.answer = .ok true
  case neg =>
    exact ⟨_, _, hwritten.trans (Passage.askFormat_refused hask' hr'),
      .refusedFormat hask hr hwrote rfl hask' hr'⟩
  rcases hran : Formatter.format g.formatter full d with ⟨result, f, d'⟩
  exact ⟨_, _, hwritten.trans (Passage.askFormat_does hask' hr' hran),
    .formatted hask hr hwrote rfl hask' hr' hran⟩

end Courses

end NodeGen
