/-
What a run does, told by its events.

The events of a run name every question, every write and every run of the
formatter, each with what came of it.  `Replay` acts them out on the confirmer,
the formatter and the disk.  Nothing else acts on these three, so the replay of
a run ends where the run ends.

`Consented` says of a list of events that no action comes before the operator
agreed to it.  A run of the gate is one of four courses of actions, and
`EveryRun` carries a property of single runs to any number of runs on one gate.
-/
import NodeGen.Gate.Basic

namespace NodeGen

variable {σ τ : Type}

/-- What a gate acts on. -/
structure World (σ τ : Type) where
  confirmer : σ
  formatter : τ
  disk : Disk

def Gate.world (g : Gate σ τ) : World σ τ := ⟨g.confirmer, g.formatter, g.disk⟩

/-! ## Actions -/

/-- Whether the event is an action, and not only a record. -/
def Event.isAction : Event → Bool
  | .record _ => false
  | _ => true

def actions (events : List Event) : List Event := events.filter Event.isAction

theorem actions_append (a b : List Event) : actions (a ++ b) = actions a ++ actions b :=
  List.filter_append a b

theorem actions_records (rs : List Record) : actions (rs.map .record) = [] := by
  induction rs with
  | nil => rfl
  | cons r rest ih => exact ih

theorem mem_of_mem_actions {e : Event} {events : List Event} (h : e ∈ actions events) :
    e ∈ events :=
  (List.mem_filter.mp h).1

section Replay

variable [Confirmer σ] [Formatter τ]

/-- Acting out the actions leads from the first world to the second, and each of
them meets the reply or the result that it has in the list. -/
inductive Replay : World σ τ → List Event → World σ τ → Prop where
  | done (w : World σ τ) : Replay w [] w
  | asked {w w' : World σ τ} {step : Step} {prompt : String} {reply : Reply} {c : σ}
      {rest : List Event} (reply_eq : Confirmer.confirm w.confirmer step prompt = (reply, c))
      (next : Replay ⟨c, w.formatter, w.disk⟩ rest w') :
      Replay w (.asked step prompt reply :: rest) w'
  | wrote {w w' : World σ τ} {job : AtomicWrite.Job} {result : Except AtomicWrite.WriteError Unit}
      {d : Disk} {rest : List Event} (result_eq : AtomicWrite.run job w.disk = (result, d))
      (next : Replay ⟨w.confirmer, w.formatter, d⟩ rest w') :
      Replay w (.wrote job result :: rest) w'
  | formatted {w w' : World σ τ} {path : String} {result : Except FormatError Unit} {f : τ}
      {d : Disk} {rest : List Event}
      (result_eq : Formatter.format w.formatter path w.disk = (result, f, d))
      (next : Replay ⟨w.confirmer, f, d⟩ rest w') :
      Replay w (.formatted path result :: rest) w'

theorem Replay.append {w w' w'' : World σ τ} {a b : List Event} (h : Replay w a w')
    (h' : Replay w' b w'') : Replay w (a ++ b) w'' := by
  induction h with
  | done => exact h'
  | asked reply_eq _ ih => exact .asked reply_eq (ih h')
  | wrote result_eq _ ih => exact .wrote result_eq (ih h')
  | formatted result_eq _ ih => exact .formatted result_eq (ih h')

/-- Only its own runs change the formatter. -/
theorem Replay.formatter_eq {w w' : World σ τ} {acts : List Event} (h : Replay w acts w')
    (hno : ∀ path result, .formatted path result ∉ acts) : w'.formatter = w.formatter := by
  induction h with
  | done => rfl
  | asked _ _ ih => exact ih fun path result hmem => hno path result (.tail _ hmem)
  | wrote _ _ ih => exact ih fun path result hmem => hno path result (.tail _ hmem)
  | formatted => exact absurd List.mem_cons_self (hno _ _)

end Replay

/-! ## Consent -/

/-- The question that the action has to wait for. -/
def Event.needs : Event → Option Step
  | .wrote _ _ => some .write
  | .formatted _ _ => some .format
  | _ => none

/-- The operator agreed to the step. -/
def Confirmed (step : Step) (events : List Event) : Prop :=
  ∃ prompt reply, .asked step prompt reply ∈ events ∧ reply.answer = .ok true

/-- Every action comes after the operator's consent to it. -/
def Consented (events : List Event) : Prop :=
  ∀ before event after, events = before ++ event :: after →
    ∀ step, event.needs = some step → Confirmed step before

theorem consented_nil : Consented [] := by
  intro before event after h
  simp at h

theorem Confirmed.mono {step : Step} {a b : List Event} (h : Confirmed step a)
    (hab : ∀ e ∈ a, e ∈ b) : Confirmed step b := by
  obtain ⟨prompt, reply, hm, hr⟩ := h
  exact ⟨prompt, reply, hab _ hm, hr⟩

/-- What was agreed to before still counts. -/
theorem Consented.append {a b : List Event} (h : Consented a) (h' : Consented b) :
    Consented (a ++ b) := by
  intro before event after heq step hs
  rcases List.append_eq_append_iff.mp heq with ⟨c, rfl, hb⟩ | ⟨c, rfl, hc⟩
  · exact (h' c event after hb step hs).mono fun _ => List.mem_append_right a
  · cases c with
    | nil => exact (h' [] event after hc.symm step hs).mono fun _ he => nomatch he
    | cons first rest =>
      obtain ⟨rfl, -⟩ := List.cons.inj hc
      exact h before event rest rfl step hs

/-- Consent is a matter of one action at a time. -/
theorem Consented.snoc {events : List Event} {event : Event} (h : Consented events)
    (he : ∀ step, event.needs = some step → Confirmed step events) :
    Consented (events ++ [event]) := by
  intro before e after heq step hs
  rcases List.eq_nil_or_concat after with rfl | ⟨rest, last, rfl⟩
  · obtain ⟨rfl, hlast⟩ := List.append_inj' heq rfl
    obtain rfl : event = e := by simpa using hlast
    exact he step hs
  · have heq : events ++ [event] = (before ++ e :: rest) ++ [last] := by simpa using heq
    obtain ⟨rfl, -⟩ := List.append_inj' heq rfl
    exact h before e rest rfl step hs

theorem Consented.ask {events : List Event} (h : Consented events) (step : Step) (prompt : String)
    (reply : Reply) : Consented (events ++ [.asked step prompt reply]) :=
  h.snoc fun step hs => by simp [Event.needs] at hs

theorem Consented.write {events : List Event} (h : Consented events)
    (hc : Confirmed .write events) (job : AtomicWrite.Job)
    (result : Except AtomicWrite.WriteError Unit) :
    Consented (events ++ [.wrote job result]) :=
  h.snoc fun step hs => by
    obtain rfl : Step.write = step := by simpa [Event.needs] using hs
    exact hc

theorem Consented.format {events : List Event} (h : Consented events)
    (hc : Confirmed .format events) (path : String) (result : Except FormatError Unit) :
    Consented (events ++ [.formatted path result]) :=
  h.snoc fun step hs => by
    obtain rfl : Step.format = step := by simpa [Event.needs] using hs
    exact hc

/-- Records need no consent and give none. -/
theorem consented_of_actions {events : List Event} (h : Consented (actions events)) :
    Consented events := by
  intro before event after heq step hs
  have hact : event.isAction = true := by
    cases event with
    | record r => simp [Event.needs] at hs
    | _ => rfl
  have hsplit : actions events = actions before ++ event :: actions after := by
    rw [heq, actions_append, actions, actions, actions, List.filter_cons_of_pos hact]
  exact (h _ _ _ hsplit step hs).mono fun _ => mem_of_mem_actions

/-! ## Sequences of runs -/

namespace Gate

variable [Confirmer σ] [Formatter τ]

/-- The property holds of every run over the files, each on the gate that the
runs before it left. -/
def EveryRun (P : Gate σ τ → String → String → Result σ τ → Prop) :
    Gate σ τ → List (String × String) → Prop
  | _, [] => True
  | g, (path, contents) :: rest =>
    P g path contents (g.run path contents) ∧ EveryRun P (g.run path contents).2 rest

theorem everyRun_of_run {P : Gate σ τ → String → String → Result σ τ → Prop}
    (h : ∀ g path contents, P g path contents (g.run path contents))
    (files : List (String × String)) (g : Gate σ τ) : EveryRun P g files := by
  induction files generalizing g with
  | nil => trivial
  | cons file rest ih => exact ⟨h g file.1 file.2, ih _⟩

/-- The runs that `EveryRun` speaks of are the ones that the gate makes. -/
theorem EveryRun.append {P : Gate σ τ → String → String → Result σ τ → Prop}
    {a b : List (String × String)} {g : Gate σ τ} (h : EveryRun P g (a ++ b)) :
    EveryRun P (g.runAll a).2 b := by
  induction a generalizing g with
  | nil => exact h
  | cons file rest ih => exact ih h.2

end Gate
end NodeGen
