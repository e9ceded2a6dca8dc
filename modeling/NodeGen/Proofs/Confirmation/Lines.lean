/-
Lines of input.

A console whose sink never fails answers a question with the first line of its input
and goes on with the other lines, or says no when there are no lines left
(`confirm_unfailing`).  So the place of a question among those that were asked decides
which line answers it.
-/
import NodeGen.Confirmation.Console

namespace NodeGen

open Confirmer

/-- The input cut after each line feed.  What comes after the last one is a line as
well, unless it is empty. -/
def inputLines : Text.Bytes → List Text.Bytes
  | [] => []
  | b :: rest =>
    if b = 10 then [b] :: inputLines rest
    else
      match inputLines rest with
      | [] => [[b]]
      | line :: lines => (b :: line) :: lines

theorem inputLines_eq {input : Text.Bytes} (h : input ≠ []) :
    inputLines input = (takeLine input).1 :: inputLines (takeLine input).2 := by
  induction input with
  | nil => exact absurd rfl h
  | cons b rest ih =>
    by_cases hb : b = 10
    · simp only [inputLines, takeLine, hb, if_true]
    · simp only [inputLines, takeLine, hb, if_false]
      cases rest with
      | nil => rfl
      | cons b' rest => rw [ih (List.cons_ne_nil _ _)]

theorem inputLines_takeLine (input : Text.Bytes) :
    inputLines (takeLine input).2 = (inputLines input).tail := by
  cases input with
  | nil => rfl
  | cons b rest => rw [inputLines_eq (List.cons_ne_nil b rest), List.tail_cons]

/-- The reply to a question that is shown in full.  At the end of the input the cursor is
moved to a new line, as no one did so by answering. -/
def lineReply (line? : Option Text.Bytes) (prompt : String) : Reply :=
  match line? with
  | some line => ⟨readAnswer line, Console.question prompt⟩
  | none => ⟨.ok false, Console.question prompt ++ Console.lineFeed⟩

theorem lineReply_shown (line? : Option Text.Bytes) (prompt : String) :
    (lineReply line? prompt).shown ≠ [] := by
  have hquestion : Console.question prompt ≠ [] := by
    rw [Console.question, Text.encode_append]
    exact List.append_ne_nil_of_right_ne_nil _ (by decide)
  cases line? with
  | none => exact List.append_ne_nil_of_left_ne_nil hquestion _
  | some line => exact hquestion

/-! ## Sinks that never fail -/

def Sink.Unfailing (s : Sink) : Prop := s.room = none ∧ s.failingFlush = none

/-- The sink with more written to it. -/
def Sink.adding (s : Sink) (bytes : Text.Bytes) : Sink := { s with written := s.written ++ bytes }

theorem Sink.Unfailing.adding {s : Sink} (h : s.Unfailing) (bytes : Text.Bytes) :
    (s.adding bytes).Unfailing := h

theorem Sink.Unfailing.put {s : Sink} (h : s.Unfailing) (bytes : Text.Bytes) :
    s.put bytes = (.ok (), s.adding bytes) := by
  simp [Sink.put, accepted, h.1, Sink.adding]

theorem Sink.Unfailing.flush {s : Sink} (h : s.Unfailing) : s.flush = (.ok (), s) := by
  simp only [Sink.flush, h.2]

/-! ## Questions -/

namespace Console

theorem confirm_unfailing {c : Console} (h : c.output.Unfailing) (step : Step) (prompt : String) :
    let reply := lineReply (inputLines c.input).head? prompt
    confirm c step prompt = (reply, ⟨(takeLine c.input).2, c.output.adding reply.shown⟩) := by
  have hask : c.ask prompt =
      { c with output := c.output.adding (question prompt) : Console }.answer := by
    simp only [ask, h.put, (h.adding _).flush]
  have hshown (input bytes : Text.Bytes) :
      c.shownSince ⟨input, c.output.adding bytes⟩ = bytes := by
    simp [shownSince, Sink.adding]
  obtain ⟨input, output⟩ := c
  cases input with
  | nil =>
    have hend : (output.adding (question prompt)).adding lineFeed =
        output.adding (question prompt ++ lineFeed) := by
      simp [Sink.adding]
    rw [answer, (h.adding _).put, hend] at hask
    simp only [confirm, hask, hshown]
    rfl
  | cons b rest =>
    simp only [answer] at hask
    simp only [confirm, hask, hshown, inputLines_eq (List.cons_ne_nil b rest)]
    rfl

end Console
end NodeGen
