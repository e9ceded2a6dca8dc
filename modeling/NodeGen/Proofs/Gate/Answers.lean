/-
Which line answers which question.

The gate asks its questions in an order that depends on the answers, as a write that is
declined leaves out the question about its format.  Whatever the order is, the questions
that the flags leave to the operator are answered with the lines of the input, one for
each in the order of the questions, and the others as the flags say (`Replay.answered`).
-/
import NodeGen.Proofs.Confirmation.Flags
import NodeGen.Proofs.Confirmation.Lines
import NodeGen.Proofs.Gate.Replay

namespace NodeGen

/-- Whether the event is a question that the flags leave to the operator. -/
def Event.prompts (flags : ConfirmFlags) : Event → Bool
  | .asked step _ _ => flags.asks step
  | _ => false

/-- Every question has the reply that the flags and the lines of the input give it. -/
structure Answered (flags : ConfirmFlags) (lines : List Text.Bytes) (events : List Event) :
    Prop where
  /-- Counted among the questions that are left to the operator, each has its own line. -/
  asked : ∀ (k : Nat) (event : Event), (events.filter (Event.prompts flags))[k]? = some event →
    ∃ step prompt, event = .asked step prompt (lineReply lines[k]? prompt)
  preset : ∀ step prompt reply, .asked step prompt reply ∈ events → flags.asks step = false →
    reply = Strategy.silent (flags.preset step)

namespace Answered

variable {flags : ConfirmFlags} {lines : List Text.Bytes} {events : List Event}

theorem nil (flags : ConfirmFlags) (lines : List Text.Bytes) : Answered flags lines [] where
  asked _ _ h := nomatch h
  preset _ _ _ h := nomatch h

/-- A question that takes a line leaves the other lines to the others. -/
theorem ask {step : Step} (hasks : flags.asks step = true) (prompt : String)
    (h : Answered flags lines.tail events) :
    Answered flags lines (.asked step prompt (lineReply lines.head? prompt) :: events) where
  asked k event hevent := by
    have hprompts :
        (Event.asked step prompt (lineReply lines.head? prompt)).prompts flags = true := hasks
    rw [List.filter_cons_of_pos hprompts] at hevent
    cases k with
    | zero =>
      obtain rfl := Option.some.inj hevent
      exact ⟨step, prompt, by rw [List.head?_eq_getElem?]⟩
    | succ k =>
      obtain ⟨step', prompt', rfl⟩ := h.asked k event hevent
      exact ⟨step', prompt', by rw [List.getElem?_tail]⟩
  preset step' prompt' reply hmem hdecided := by
    rcases List.mem_cons.mp hmem with heq | hrest
    · cases heq
      rw [hasks] at hdecided
      cases hdecided
    · exact h.preset step' prompt' reply hrest hdecided

theorem decided {step : Step} (hasks : flags.asks step = false) (prompt : String)
    (h : Answered flags lines events) :
    Answered flags lines
      (.asked step prompt (Strategy.silent (flags.preset step)) :: events) where
  asked k event hevent := by
    rw [List.filter_cons_of_neg (by simp [Event.prompts, hasks])] at hevent
    exact h.asked k event hevent
  preset step' prompt' reply hmem hdecided := by
    rcases List.mem_cons.mp hmem with heq | hrest
    · cases heq
      rfl
    · exact h.preset step' prompt' reply hrest hdecided

/-- Only questions are answered. -/
theorem other {event : Event} (hother : ∀ step prompt reply, event ≠ .asked step prompt reply)
    (h : Answered flags lines events) : Answered flags lines (event :: events) where
  asked k event' hevent := by
    have hskip : event.prompts flags = false := by
      cases event with
      | asked step prompt reply => exact absurd rfl (hother step prompt reply)
      | _ => rfl
    rw [List.filter_cons_of_neg (by simp [hskip])] at hevent
    exact h.asked k event' hevent
  preset step prompt reply hmem := by
    have hrest := (List.mem_cons.mp hmem).resolve_left (hother step prompt reply).symm
    exact h.preset step prompt reply hrest

/-- Records answer nothing. -/
theorem of_actions (h : Answered flags lines (actions events)) : Answered flags lines events where
  asked k event hevent := by
    have hfilter : (actions events).filter (Event.prompts flags) =
        events.filter (Event.prompts flags) := by
      rw [actions, List.filter_filter]
      refine List.filter_congr fun event _ => ?_
      cases event <;> simp [Event.prompts, Event.isAction]
    exact h.asked k event (hfilter ▸ hevent)
  preset step prompt reply hmem := h.preset step prompt reply (List.mem_filter.mpr ⟨hmem, rfl⟩)

/-- The operator sees the questions that are left to them, and nothing of the others. -/
theorem shown_iff (h : Answered flags lines events) {event : Event} (hmem : event ∈ events) :
    event.shown ≠ [] ↔ event.prompts flags = true := by
  cases hprompts : event.prompts flags with
  | true =>
    obtain ⟨k, hk⟩ := List.mem_iff_getElem?.mp (List.mem_filter.mpr ⟨hmem, hprompts⟩)
    obtain ⟨step, prompt, rfl⟩ := h.asked k event hk
    exact iff_of_true (lineReply_shown _ prompt) rfl
  | false =>
    refine iff_of_false (not_not_intro ?_) Bool.false_ne_true
    cases event with
    | asked step prompt reply =>
      rw [Event.shown, h.preset step prompt reply hmem hprompts]
      rfl
    | _ => rfl

end Answered

/-- The replay of a console, as the flags put it to use. -/
theorem Replay.answered {τ : Type} [Formatter τ] {flags : ConfirmFlags} {w w' : World Strategy τ}
    {acts : List Event} (h : Replay w acts w') {c : Console} (hc : c.output.Unfailing)
    (hw : w.confirmer = flags.strategyOf c) : Answered flags (inputLines c.input) acts := by
  induction h generalizing c with
  | done => exact .nil flags _
  | @asked w w' step prompt reply s rest reply_eq _ ih =>
    cases hasks : flags.asks step with
    | true =>
      rw [hw, ConfirmFlags.confirm_strategyOf_asks hasks, Console.confirm_unfailing hc] at reply_eq
      cases reply_eq
      have hnext := ih (c := ⟨_, _⟩) (hc.adding _) rfl
      rw [inputLines_takeLine] at hnext
      exact hnext.ask hasks prompt
    | false =>
      rw [hw, ConfirmFlags.confirm_strategyOf_preset hasks] at reply_eq
      cases reply_eq
      exact (ih hc rfl).decided hasks prompt
  | wrote _ _ ih => exact (ih hc hw).other fun _ _ _ => Event.noConfusion
  | formatted _ _ ih => exact (ih hc hw).other fun _ _ _ => Event.noConfusion

end NodeGen
