/-
Strategies side by side.

A strategy for each of the two steps sees the questions about its own step and no others.
So it answers them as it would alone, whatever is asked and answered in between, and ends
in the state in which it would end alone (`sideBySide`).  However deep strategies are
nested, the questions about a step go to one strategy in the end, its `leaf`.  With the
flags of a command line the console is asked what the flags leave to it.  All of these are
cases of one confirmer that answers for another about some of the steps (`AnswersFor`), and
`AnswersFor.confirmAll` goes from one question to any number of them.
-/
import NodeGen.Proofs.Confirmation.Flags

namespace NodeGen

open Confirmer

/-! ## Questions about some of the steps -/

/-- The questions about the steps that are chosen. -/
def about (p : Step → Bool) (questions : List (Step × String)) : List (Step × String) :=
  questions.filter fun q => p q.1

/-- The replies to these questions. -/
def repliesTo (p : Step → Bool) (questions : List (Step × String)) (replies : List Reply) :
    List Reply :=
  ((questions.zip replies).filter fun r => p r.1.1).map Prod.snd

section Questions

variable {p : Step → Bool} {q : Step × String} {questions : List (Step × String)}

theorem about_cons_of_pos (h : p q.1 = true) : about p (q :: questions) = q :: about p questions :=
  List.filter_cons_of_pos h

theorem about_cons_of_neg (h : p q.1 = false) : about p (q :: questions) = about p questions :=
  List.filter_cons_of_neg (by simp [h])

theorem repliesTo_cons_of_pos (h : p q.1 = true) (reply : Reply) (replies : List Reply) :
    repliesTo p (q :: questions) (reply :: replies) = reply :: repliesTo p questions replies := by
  simp [repliesTo, h]

theorem repliesTo_cons_of_neg (h : p q.1 = false) (reply : Reply) (replies : List Reply) :
    repliesTo p (q :: questions) (reply :: replies) = repliesTo p questions replies := by
  simp [repliesTo, h]

end Questions

section Confirmers

variable {σ τ : Type} [Confirmer σ] [Confirmer τ]

theorem confirmAll_cons (c : σ) (q : Step × String) (questions : List (Step × String)) :
    confirmAll c (q :: questions) =
      ((confirm c q.1 q.2).1 :: (confirmAll (confirm c q.1 q.2).2 questions).1,
        (confirmAll (confirm c q.1 q.2).2 questions).2) :=
  rfl

theorem length_confirmAll (c : σ) (questions : List (Step × String)) :
    (confirmAll c questions).1.length = questions.length := by
  induction questions generalizing c with
  | nil => rfl
  | cons q rest ih => exact congrArg (· + 1) (ih _)

/-- Of two related confirmers the second one answers for the first one about the steps that
are chosen.  The other questions do not touch it. -/
structure AnswersFor (p : Step → Bool) (rel : σ → τ → Prop) : Prop where
  chosen : ∀ {s : σ} {c : τ} {step : Step} (prompt : String), rel s c → p step = true →
    (confirm s step prompt).1 = (confirm c step prompt).1 ∧
      rel (confirm s step prompt).2 (confirm c step prompt).2
  other : ∀ {s : σ} {c : τ} {step : Step} (prompt : String), rel s c → p step = false →
    rel (confirm s step prompt).2 c

theorem AnswersFor.confirmAll {p : Step → Bool} {rel : σ → τ → Prop} (h : AnswersFor p rel)
    {s : σ} {c : τ} (hrel : rel s c) (questions : List (Step × String)) :
    repliesTo p questions (confirmAll s questions).1 = (confirmAll c (about p questions)).1 ∧
      rel (confirmAll s questions).2 (confirmAll c (about p questions)).2 := by
  induction questions generalizing s c with
  | nil => exact ⟨rfl, hrel⟩
  | cons q rest ih =>
    rw [confirmAll_cons]
    cases hp : p q.1 with
    | true =>
      obtain ⟨hreply, hnext⟩ := h.chosen q.2 hrel hp
      obtain ⟨hreplies, hends⟩ := ih hnext
      rw [repliesTo_cons_of_pos hp, about_cons_of_pos hp, confirmAll_cons, hreplies, hreply]
      exact ⟨rfl, hends⟩
    | false =>
      rw [repliesTo_cons_of_neg hp, about_cons_of_neg hp]
      exact ih (h.other q.2 hrel hp)

end Confirmers

/-! ## Two sides -/

/-- Each of the two strategies gives the replies that it gives alone to the questions about
its step, and ends as it does alone. -/
structure SideBySide (write format : Strategy) (questions : List (Step × String))
    (replies : List Reply) (after : Strategy) : Prop where
  replied : replies.length = questions.length
  toWrite : repliesTo (· == .write) questions replies =
    (confirmAll write (about (· == .write) questions)).1
  toFormat : repliesTo (· == .format) questions replies =
    (confirmAll format (about (· == .format) questions)).1
  ends : after = .perStep (confirmAll write (about (· == .write) questions)).2
    (confirmAll format (about (· == .format) questions)).2

namespace Strategy

theorem write_answersFor :
    AnswersFor (· == .write) fun s write : Strategy => ∃ format, s = perStep write format where
  chosen := by
    intro s write step prompt hrel hstep
    obtain ⟨format, rfl⟩ := hrel
    cases step with
    | write => exact ⟨rfl, format, rfl⟩
    | format => cases hstep
  other := by
    intro s write step prompt hrel hstep
    obtain ⟨format, rfl⟩ := hrel
    cases step with
    | write => cases hstep
    | format => exact ⟨(format.confirm .format prompt).2, rfl⟩

theorem format_answersFor :
    AnswersFor (· == .format) fun s format : Strategy => ∃ write, s = perStep write format where
  chosen := by
    intro s format step prompt hrel hstep
    obtain ⟨write, rfl⟩ := hrel
    cases step with
    | write => cases hstep
    | format => exact ⟨rfl, write, rfl⟩
  other := by
    intro s format step prompt hrel hstep
    obtain ⟨write, rfl⟩ := hrel
    cases step with
    | write => exact ⟨(write.confirm .write prompt).2, rfl⟩
    | format => cases hstep

theorem sideBySide (write format : Strategy) (questions : List (Step × String)) :
    SideBySide write format questions (confirmAll (perStep write format) questions).1
      (confirmAll (perStep write format) questions).2 := by
  obtain ⟨hwrite, format', hafter⟩ := write_answersFor.confirmAll ⟨format, rfl⟩ questions
  obtain ⟨hformat, write', hafter'⟩ := format_answersFor.confirmAll ⟨write, rfl⟩ questions
  obtain ⟨-, hends⟩ := perStep.inj (hafter.symm.trans hafter')
  exact ⟨length_confirmAll _ _, hwrite, hformat, hends ▸ hafter⟩

/-- What is asked about the other step in between makes no difference. -/
theorem perStep_interleaving {write format : Strategy} {questions others : List (Step × String)}
    (h : ∀ step, about (· == step) questions = about (· == step) others) :
    (confirmAll (perStep write format) questions).2 =
        (confirmAll (perStep write format) others).2 ∧
      ∀ step, repliesTo (· == step) questions (confirmAll (perStep write format) questions).1 =
        repliesTo (· == step) others (confirmAll (perStep write format) others).1 := by
  obtain ⟨-, hwrite, hformat, hends⟩ := sideBySide write format questions
  obtain ⟨-, hwrite', hformat', hends'⟩ := sideBySide write format others
  refine ⟨?_, fun step => ?_⟩
  · rw [hends, hends', h, h]
  · cases step with
    | write => rw [hwrite, hwrite', h]
    | format => rw [hformat, hformat', h]

/-! ## Nested strategies -/

/-- Where the questions about a step go in the end. -/
def leaf (step : Step) : Strategy → Strategy
  | perStep write format =>
    match step with
    | .write => leaf .write write
    | .format => leaf .format format
  | s => s

theorem leaf_confirm (step : Step) (s : Strategy) (prompt : String) :
    (s.confirm step prompt).1 = ((s.leaf step).confirm step prompt).1 ∧
      (s.confirm step prompt).2.leaf step = ((s.leaf step).confirm step prompt).2 := by
  induction s with
  | perStep write format ihwrite ihformat =>
    cases step with
    | write => exact ihwrite
    | format => exact ihformat
  | _ => exact ⟨rfl, rfl⟩

theorem leaf_answersFor (step : Step) :
    AnswersFor (· == step) fun s c : Strategy =>
      (∃ write format, s = perStep write format) ∧ s.leaf step = c where
  chosen := by
    intro s c other prompt hrel hother
    obtain ⟨⟨write, format, rfl⟩, rfl⟩ := hrel
    obtain rfl : other = step := beq_iff_eq.mp hother
    obtain ⟨hreply, hends⟩ := leaf_confirm other (perStep write format) prompt
    refine ⟨hreply, ?_, hends⟩
    cases other <;> exact ⟨_, _, rfl⟩
  other := by
    intro s c other prompt hrel hother
    obtain ⟨⟨write, format, rfl⟩, rfl⟩ := hrel
    cases other with
    | write =>
      cases step with
      | write => cases hother
      | format => exact ⟨⟨_, _, rfl⟩, rfl⟩
    | format =>
      cases step with
      | write => exact ⟨⟨_, _, rfl⟩, rfl⟩
      | format => cases hother

/-- At any depth the leaf answers the questions about a step as it does alone, and ends as
it does alone. -/
theorem confirmAll_leaf (step : Step) (write format : Strategy)
    (questions : List (Step × String)) :
    let run := confirmAll (perStep write format) questions
    let alone := confirmAll ((perStep write format).leaf step) (about (· == step) questions)
    repliesTo (· == step) questions run.1 = alone.1 ∧ run.2.leaf step = alone.2 := by
  obtain ⟨hreplies, -, hends⟩ :=
    (leaf_answersFor step).confirmAll ⟨⟨write, format, rfl⟩, rfl⟩ questions
  exact ⟨hreplies, hends⟩

/-- Gives the same answer to everything. -/
def fixed (answer : Bool) : Strategy := if answer then alwaysConfirm else alwaysDecline

theorem confirm_fixed (answer : Bool) (step : Step) (prompt : String) :
    confirm (fixed answer) step prompt = (silent answer, fixed answer) := by
  cases answer <;> rfl

theorem confirmAll_fixed (answer : Bool) (questions : List (Step × String)) :
    confirmAll (fixed answer) questions =
      (questions.map fun _ => silent answer, fixed answer) := by
  induction questions with
  | nil => rfl
  | cons q rest ih =>
    have hfirst : Confirmer.confirm (fixed answer) q.1 q.2 = (silent answer, fixed answer) :=
      confirm_fixed answer q.1 q.2
    simp only [confirmAll_cons, hfirst, ih, List.map_cons]

end Strategy

/-! ## Flags -/

namespace ConfirmFlags

/-- Opens a console and counts it. -/
def counted (console : Strategy) : StateM Nat Strategy := do
  modify (· + 1)
  pure console

/-- What the flags make of a console.  It sees the questions that are left to it, in order. -/
structure Attended (flags : ConfirmFlags) (console : Strategy) (questions : List (Step × String))
    (replies : List Reply) (after : Strategy) : Prop where
  replied : replies.length = questions.length
  left : repliesTo flags.asks questions replies =
    (confirmAll console (about flags.asks questions)).1
  ends : after = flags.strategyWith (confirmAll console (about flags.asks questions)).2
  decided : ∀ step, flags.asks step = false → repliesTo (· == step) questions replies =
    (about (· == step) questions).map fun _ => Strategy.silent (flags.preset step)

theorem console_answersFor (flags : ConfirmFlags) :
    AnswersFor flags.asks fun s console : Strategy => s = flags.strategyWith console where
  chosen := by
    intro s console step prompt hrel hasks
    subst hrel
    rw [confirm_strategyWith_asks hasks]
    exact ⟨rfl, rfl⟩
  other := by
    intro s console step prompt hrel hasks
    subst hrel
    rw [confirm_strategyWith_preset hasks]

theorem fixed_answersFor {flags : ConfirmFlags} {step : Step} (h : flags.asks step = false) :
    AnswersFor (· == step) fun s c : Strategy =>
      (∃ console, s = flags.strategyWith console) ∧ c = Strategy.fixed (flags.preset step) where
  chosen := by
    intro s c other prompt hrel hother
    obtain ⟨⟨console, rfl⟩, rfl⟩ := hrel
    obtain rfl : other = step := beq_iff_eq.mp hother
    have hfixed : confirm (Strategy.fixed (flags.preset other)) other prompt =
        (Strategy.silent (flags.preset other), Strategy.fixed (flags.preset other)) :=
      Strategy.confirm_fixed _ _ _
    rw [confirm_strategyWith_preset h, hfixed]
    exact ⟨rfl, ⟨console, rfl⟩, rfl⟩
  other := by
    intro s c other prompt hrel _
    obtain ⟨⟨console, rfl⟩, rfl⟩ := hrel
    refine ⟨?_, rfl⟩
    cases hasks : flags.asks other with
    | true => exact ⟨_, congrArg Prod.snd (confirm_strategyWith_asks hasks console prompt)⟩
    | false => exact ⟨_, congrArg Prod.snd (confirm_strategyWith_preset hasks console prompt)⟩

theorem confirmAll_attended (flags : ConfirmFlags) (console : Strategy)
    (questions : List (Step × String)) :
    Attended flags console questions (confirmAll (flags.strategyWith console) questions).1
      (confirmAll (flags.strategyWith console) questions).2 := by
  obtain ⟨hleft, hends⟩ := flags.console_answersFor.confirmAll rfl questions
  refine ⟨length_confirmAll _ _, hleft, hends, fun step hstep => ?_⟩
  obtain ⟨hfixed, -⟩ := (fixed_answersFor hstep).confirmAll ⟨⟨console, rfl⟩, rfl⟩ questions
  rw [hfixed, Strategy.confirmAll_fixed]

end ConfirmFlags

/-- The two sides of a strategy do not touch each other, and the flags leave a console the
questions about the steps that they do not decide. -/
theorem Strategy.steps_independent :
    (∀ (write format : Strategy) (questions : List (Step × String)),
      let run := confirmAll (perStep write format) questions
      SideBySide write format questions run.1 run.2 ∧
      (∀ step,
        let alone := confirmAll ((perStep write format).leaf step) (about (· == step) questions)
        repliesTo (· == step) questions run.1 = alone.1 ∧ run.2.leaf step = alone.2) ∧
      ∀ others, (∀ step, about (· == step) questions = about (· == step) others) →
        run.2 = (confirmAll (perStep write format) others).2 ∧
        ∀ step, repliesTo (· == step) questions run.1 =
          repliesTo (· == step) others (confirmAll (perStep write format) others).1) ∧
    ∀ (flags : ConfirmFlags) (console : Strategy) (opened : Nat),
      let strategy := flags.strategyWith console
      (flags.strategy (ConfirmFlags.counted console)).run opened =
        (strategy, if flags.yes then opened else opened + 1) ∧
      ∀ questions, ConfirmFlags.Attended flags console questions
        (confirmAll strategy questions).1 (confirmAll strategy questions).2 := by
  constructor
  · intro write format questions run
    exact ⟨sideBySide write format questions,
      fun step => confirmAll_leaf step write format questions,
      fun others h => perStep_interleaving h⟩
  · intro flags console opened strategy
    refine ⟨?_, flags.confirmAll_attended console⟩
    rw [flags.strategy_eq (ConfirmFlags.counted console) console]
    cases flags.yes <;> rfl

/-- Two scripts that are asked in another order end alike. -/
theorem Strategy.steps_independent_scripted :
    let asked : List (Step × String) := [(.write, "a"), (.format, "b"), (.write, "c")]
    let others : List (Step × String) := [(.format, "b"), (.write, "a"), (.write, "c")]
    let s := perStep (scripted [true, false] []) (scripted [true] [])
    (∀ step, about (· == step) asked = about (· == step) others) ∧
      (confirmAll s asked).2 = (confirmAll s others).2 ∧
      (∀ step, repliesTo (· == step) asked (confirmAll s asked).1 =
        repliesTo (· == step) others (confirmAll s others).1) ∧
      (confirmAll s asked).2 = perStep (scripted [] ["a", "c"]) (scripted [] ["b"]) := by
  intro asked others s
  have hsame (step : Step) : about (· == step) asked = about (· == step) others := by
    cases step <;> rfl
  obtain ⟨-, -, hinterleaved⟩ := steps_independent.1 (scripted [true, false] [])
    (scripted [true] []) asked
  obtain ⟨hends, hreplies⟩ := hinterleaved others hsame
  exact ⟨hsame, hends, hreplies, rfl⟩

end NodeGen
