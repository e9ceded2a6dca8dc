/-
Questions and lines.

A console answers one question after the other with the lines of its input.  On a sink
that never fails the k-th question takes the k-th line (`confirmAll_unfailing`).  On any
other sink a question that could not be shown takes no line, so a question takes the line
that comes next after those of the questions shown before it (`askEach_eq`).  The sink may
have changed in any way by the time of each question, so each of them meets a sink of its
own there, and one console is the case in which these are the sinks that it passes through.
-/
import NodeGen.Proofs.Confirmation.Lines
import NodeGen.Proofs.Text.Trimming
import NodeGen.Proofs.Text.Utf8

namespace NodeGen

open Confirmer

/-! ## Lines -/

/-- The input cut after each line feed. -/
inductive Cut : Text.Bytes → List Text.Bytes → Prop where
  | nothing : Cut [] []
  /-- What comes after the last line feed is a line if there is anything. -/
  | rest {body : Text.Bytes} (unended : 10 ∉ body) (nonempty : body ≠ []) : Cut body [body]
  | line {body input : Text.Bytes} {lines : List Text.Bytes} (unended : 10 ∉ body)
      (more : Cut input lines) : Cut (body ++ 10 :: input) ((body ++ [10]) :: lines)

theorem inputLines_cons {b : UInt8} (hb : b ≠ 10) (rest : Text.Bytes) :
    inputLines (b :: rest) =
      match inputLines rest with
      | [] => [[b]]
      | line :: lines => (b :: line) :: lines :=
  if_neg hb

theorem cut_inputLines (input : Text.Bytes) : Cut input (inputLines input) := by
  induction input with
  | nil => exact .nothing
  | cons b rest ih =>
    by_cases hb : b = 10
    · subst hb
      exact .line List.not_mem_nil ih
    · have hbody {body : Text.Bytes} (hunended : 10 ∉ body) : 10 ∉ b :: body := by
        simp [hunended, Ne.symm hb]
      rw [inputLines_cons hb]
      generalize inputLines rest = lines at ih ⊢
      cases ih with
      | nothing => exact .rest (hbody List.not_mem_nil) (List.cons_ne_nil b [])
      | rest unended nonempty => exact .rest (hbody unended) (List.cons_ne_nil b _)
      | line unended more => exact .line (hbody unended) more

theorem inputLines_rest {body : Text.Bytes} (hunended : 10 ∉ body) (hne : body ≠ []) :
    inputLines body = [body] := by
  induction body with
  | nil => exact absurd rfl hne
  | cons b rest ih =>
    have hb : b ≠ 10 := fun h => hunended (h ▸ List.mem_cons_self)
    have hrest : 10 ∉ rest := fun h => hunended (List.mem_cons_of_mem b h)
    rw [inputLines_cons hb]
    cases rest with
    | nil => rfl
    | cons b' rest => rw [ih hrest (List.cons_ne_nil b' rest)]

theorem inputLines_line {body : Text.Bytes} (hunended : 10 ∉ body) (input : Text.Bytes) :
    inputLines (body ++ 10 :: input) = (body ++ [10]) :: inputLines input := by
  induction body with
  | nil => rw [List.nil_append, inputLines, if_pos rfl, List.nil_append]
  | cons b rest ih =>
    have hb : b ≠ 10 := fun h => hunended (h ▸ List.mem_cons_self)
    have hrest : 10 ∉ rest := fun h => hunended (List.mem_cons_of_mem b h)
    rw [List.cons_append, inputLines_cons hb, ih hrest]
    rfl

/-- There is one way to cut an input. -/
theorem cut_iff {input : Text.Bytes} {lines : List Text.Bytes} :
    Cut input lines ↔ lines = inputLines input := by
  constructor
  · intro h
    induction h with
    | nothing => rfl
    | rest unended nonempty => exact (inputLines_rest unended nonempty).symm
    | line unended _ ih => rw [inputLines_line unended, ← ih]
  · rintro rfl
    exact cut_inputLines input

theorem Cut.flatten {input : Text.Bytes} {lines : List Text.Bytes} (h : Cut input lines) :
    lines.flatten = input := by
  induction h with
  | nothing => rfl
  | rest => exact List.append_nil _
  | line _ _ ih => rw [List.flatten_cons, ih, List.append_assoc]; rfl

/-- What a line of input says.  A line that is no text is an error, and a text says yes if
it is one of two words between blanks. -/
inductive LineSays (line : Text.Bytes) : Except IoError Bool → Prop where
  | notText (unreadable : ∀ s, Text.encode s ≠ line) : LineSays line (.error .invalidText)
  | text {s core : String} (encoded : Text.encode s = line) (between : Text.Between s core) :
      LineSays line
        (.ok (decide (Text.lowerAscii core = "y" ∨ Text.lowerAscii core = "yes")))

theorem lineSays_iff {line : Text.Bytes} {answer : Except IoError Bool} :
    LineSays line answer ↔ answer = readAnswer line := by
  have hyes (s : String) : isYes s =
      decide (Text.lowerAscii (Text.trim s) = "y" ∨ Text.lowerAscii (Text.trim s) = "yes") := by
    simp [isYes]
  rw [readAnswer]
  constructor
  · intro h
    cases h with
    | notText unreadable =>
      have hnone : Text.decode? line = none :=
        Option.eq_none_iff_forall_ne_some.mpr fun s hs =>
          unreadable s (Text.decode?_eq_some_iff.mp hs)
      rw [hnone]
    | text encoded between =>
      obtain rfl := Text.between_iff.mp between
      rw [Text.decode?_eq_some_iff.mpr encoded, ← hyes]
  · rintro rfl
    cases hs : Text.decode? line with
    | none =>
      refine .notText fun s hline => ?_
      rw [Text.decode?_eq_some_iff.mpr hline] at hs
      cases hs
    | some s =>
      have htext := LineSays.text (Text.decode?_eq_some_iff.mp hs) (Text.between_trim s)
      rwa [← hyes] at htext

/-! ## Sinks that never fail -/

namespace Console

/-- The k-th question takes the k-th line, and the other lines are left. -/
theorem confirmAll_unfailing {c : Console} (h : c.output.Unfailing)
    (questions : List (Step × String)) :
    let lines := inputLines c.input
    let replies := questions.mapIdx fun k q => lineReply lines[k]? q.2
    confirmAll c questions =
      (replies, ⟨(lines.drop questions.length).flatten,
        c.output.adding (replies.flatMap Reply.shown)⟩) := by
  induction questions generalizing c with
  | nil => simp [confirmAll, Sink.adding, (cut_inputLines c.input).flatten]
  | cons q rest ih =>
    obtain ⟨step, prompt⟩ := q
    have hreply := confirm_unfailing h step prompt
    generalize hfirst : lineReply (inputLines c.input).head? prompt = reply at hreply
    have hnext := ih (c := ⟨(takeLine c.input).2, c.output.adding reply.shown⟩) (h.adding _)
    simp only [inputLines_takeLine, List.getElem?_tail] at hnext
    have hzero : lineReply (inputLines c.input)[0]? prompt = reply := by
      rw [← List.head?_eq_getElem?, hfirst]
    simp only [confirmAll, hreply, hnext, List.mapIdx_cons, hzero]
    simp [Sink.adding]

end Console

/-! ## Sinks that may fail -/

/-- Shows a question.  It is written in full and flushed. -/
def Sink.present (s : Sink) (prompt : String) : Except IoError Unit × Sink :=
  match s.put (Console.question prompt) with
  | (.error e, s) => (.error e, s)
  | (.ok _, s) => s.flush

/-- Whether the question is shown on its sink. -/
def presented (q : Sink × String) : Bool := (q.1.present q.2).1.isOk

/-- The answer to a question that is shown. -/
def answerToShown (sink : Sink) : Option Text.Bytes → Except IoError Bool
  | some line => readAnswer line
  | none => (sink.put Console.lineFeed).1.map fun _ => false

/-- The answer of a console with the line that comes next. -/
def answerOf (q : Sink × String) (line? : Option Text.Bytes) : Except IoError Bool :=
  match q.1.present q.2 with
  | (.error e, _) => .error e
  | (.ok _, sink) => answerToShown sink line?

theorem answerOf_unshown {q : Sink × String} {e : IoError} (h : (q.1.present q.2).1 = .error e)
    (line? : Option Text.Bytes) : answerOf q line? = .error e := by
  rw [answerOf]
  rcases hq : q.1.present q.2 with ⟨_ | _, sink⟩ <;> rw [hq] at h <;> cases h
  rfl

theorem answerOf_shown {q : Sink × String} (h : presented q = true)
    (line? : Option Text.Bytes) : answerOf q line? = answerToShown (q.1.present q.2).2 line? := by
  rw [answerOf]
  rw [presented] at h
  rcases hq : q.1.present q.2 with ⟨_ | _, sink⟩
  · rw [hq] at h
    cases h
  · rfl

namespace Console

theorem ask_eq (c : Console) (prompt : String) :
    c.ask prompt =
      match c.output.present prompt with
      | (.error e, output) => (.error e, { c with output := output })
      | (.ok _, output) => { c with output := output }.answer := by
  rw [ask, Sink.present]
  rcases c.output.put (question prompt) with ⟨_ | _, output⟩ <;> rfl

theorem answer_result (c : Console) :
    c.answer.1 = answerToShown c.output (inputLines c.input).head? ∧
    c.answer.2.input = (takeLine c.input).2 := by
  obtain ⟨input, output⟩ := c
  cases input with
  | nil =>
    simp only [answer, inputLines, List.head?_nil, answerToShown]
    rcases output.put lineFeed with ⟨_ | _, output⟩ <;> exact ⟨rfl, rfl⟩
  | cons b rest =>
    rw [inputLines_eq (List.cons_ne_nil b rest)]
    exact ⟨rfl, rfl⟩

/-- A question that is not shown takes no line. -/
theorem ask_result (c : Console) (prompt : String) :
    (c.ask prompt).1 = answerOf (c.output, prompt) (inputLines c.input).head? ∧
    (c.ask prompt).2.input =
      if presented (c.output, prompt) then (takeLine c.input).2 else c.input := by
  rw [ask_eq, answerOf, presented]
  rcases hpresent : c.output.present prompt with ⟨_ | _, output⟩
  · exact ⟨rfl, rfl⟩
  · exact answer_result { c with output := output }

/-- Asks questions of which each meets a sink of its own. -/
def askEach (input : Text.Bytes) :
    List (Sink × String) → List (Except IoError Bool) × Text.Bytes
  | [] => ([], input)
  | q :: rest =>
    let (answer, c) := (Console.mk input q.1).ask q.2
    let (answers, input) := askEach c.input rest
    (answer :: answers, input)

theorem askEach_eq (input : Text.Bytes) (questions : List (Sink × String)) :
    let lines := inputLines input
    askEach input questions =
      (questions.mapIdx fun k q => answerOf q lines[(questions.take k).countP presented]?,
        (lines.drop (questions.countP presented)).flatten) := by
  induction questions generalizing input with
  | nil => simp [askEach, (cut_inputLines input).flatten]
  | cons q rest ih =>
    obtain ⟨hanswer, hinput⟩ := ask_result ⟨input, q.1⟩ q.2
    simp only [askEach, hanswer, hinput, ih, List.mapIdx_cons, List.take_succ_cons,
      List.countP_cons, List.take_zero, List.countP_nil, List.head?_eq_getElem?]
    cases hq : presented q with
    | false => simp
    | true => simp [inputLines_takeLine]

/-- The questions with the sinks that they meet on one console. -/
def meetings (c : Console) : List (Step × String) → List (Sink × String)
  | [] => []
  | (step, prompt) :: rest => (c.output, prompt) :: (confirm c step prompt).2.meetings rest

theorem confirmAll_eq_askEach (c : Console) (questions : List (Step × String)) :
    ((confirmAll c questions).1.map Reply.answer, (confirmAll c questions).2.input) =
      askEach c.input (c.meetings questions) := by
  induction questions generalizing c with
  | nil => rfl
  | cons q rest ih =>
    obtain ⟨step, prompt⟩ := q
    have hrest := ih (confirm c step prompt).2
    rw [Prod.mk.injEq] at hrest
    rw [meetings, askEach, Prod.mk.injEq]
    exact ⟨congrArg _ hrest.1, hrest.2⟩

end Console

/-! ## Dialogues -/

/-- The replies go by the lines, one for each question, and so does what is shown. -/
structure LineByLine (lines : List Text.Bytes) (c : Console) (questions : List (Step × String))
    (replies : List Reply) (after : Console) : Prop where
  replied : replies.length = questions.length
  byLine : ∀ (k : Nat) (reply : Reply) (line : Text.Bytes), replies[k]? = some reply →
    lines[k]? = some line → LineSays line reply.answer
  /-- At the end of the input every answer is no. -/
  ended : ∀ (k : Nat) (reply : Reply), replies[k]? = some reply → lines.length ≤ k →
    reply.answer = .ok false
  left : after.input = (lines.drop questions.length).flatten
  /-- The questions are shown, and a new line after those that no line answers. -/
  shown : after.output.written = c.output.written ++ (questions.mapIdx fun k q =>
    Text.encode (q.2 ++ " [y/N]: ") ++ if k < lines.length then [] else Text.encode "\n").flatten

/-- The answers go by the lines, one for each question that is shown on its sink. -/
structure LinesKept (lines : List Text.Bytes) (questions : List (Sink × String))
    (answers : List (Except IoError Bool)) (after : Text.Bytes) : Prop where
  answered : answers.length = questions.length
  unshown : ∀ (k : Nat) (q : Sink × String) (e : IoError), questions[k]? = some q →
    (q.1.present q.2).1 = .error e → answers[k]? = some (.error e)
  byLine : ∀ (k : Nat) (q : Sink × String) (line : Text.Bytes), questions[k]? = some q →
    presented q = true → lines[(questions.take k).countP presented]? = some line →
    ∃ answer, answers[k]? = some answer ∧ LineSays line answer
  /-- At the end of the input the answer is no, or the error of the new line. -/
  ended : ∀ (k : Nat) (q : Sink × String), questions[k]? = some q → presented q = true →
    lines.length ≤ (questions.take k).countP presented →
    answers[k]? = some (((q.1.present q.2).2.put (Text.encode "\n")).1.map fun _ => false)
  left : after = (lines.drop (questions.countP presented)).flatten

theorem shown_lineReply (lines : List Text.Bytes) (k : Nat) (prompt : String) :
    (lineReply lines[k]? prompt).shown =
      Text.encode (prompt ++ " [y/N]: ") ++
        if k < lines.length then [] else Text.encode "\n" := by
  by_cases hk : k < lines.length
  · rw [if_pos hk, List.getElem?_eq_getElem hk, List.append_nil]
    rfl
  · rw [if_neg hk, List.getElem?_eq_none (Nat.le_of_not_lt hk)]
    rfl

namespace Console

theorem confirmAll_lineByLine {c : Console} (h : c.output.Unfailing)
    (questions : List (Step × String)) :
    LineByLine (inputLines c.input) c questions (confirmAll c questions).1
      (confirmAll c questions).2 := by
  have hreply (k : Nat) (reply : Reply)
      (hk : (questions.mapIdx fun k q => lineReply (inputLines c.input)[k]? q.2)[k]? =
        some reply) : ∃ q, lineReply (inputLines c.input)[k]? q = reply := by
    rw [List.getElem?_mapIdx, Option.map_eq_some_iff] at hk
    obtain ⟨q, -, hq⟩ := hk
    exact ⟨q.2, hq⟩
  rw [confirmAll_unfailing h]
  refine
    { replied := List.length_mapIdx
      byLine := fun k reply line hk hline => ?_
      ended := fun k reply hk hend => ?_
      left := rfl
      shown := congrArg (c.output.written ++ ·) ?_ }
  · obtain ⟨prompt, rfl⟩ := hreply k reply hk
    rw [hline]
    exact lineSays_iff.mpr rfl
  · obtain ⟨prompt, rfl⟩ := hreply k reply hk
    rw [List.getElem?_eq_none hend]
    rfl
  · rw [List.flatMap_def]
    refine congrArg List.flatten (List.ext_getElem? fun k => ?_)
    rw [List.getElem?_map, List.getElem?_mapIdx, List.getElem?_mapIdx, Option.map_map]
    exact congrArg (Option.map · _) (funext fun q => shown_lineReply _ k q.2)

theorem askEach_linesKept (input : Text.Bytes) (questions : List (Sink × String)) :
    LinesKept (inputLines input) questions (askEach input questions).1
      (askEach input questions).2 := by
  rw [askEach_eq]
  have hanswer {k : Nat} {q : Sink × String} (hk : questions[k]? = some q) :
      (questions.mapIdx fun k q =>
        answerOf q (inputLines input)[(questions.take k).countP presented]?)[k]? =
        some (answerOf q (inputLines input)[(questions.take k).countP presented]?) := by
    rw [List.getElem?_mapIdx, hk]
    rfl
  refine
    { answered := List.length_mapIdx
      unshown := fun k q e hk he => ?_
      byLine := fun k q line hk hshown hline => ⟨_, hanswer hk, ?_⟩
      ended := fun k q hk hshown hend => ?_
      left := rfl }
  · rw [hanswer hk, answerOf_unshown he]
  · rw [answerOf_shown hshown, hline]
    exact lineSays_iff.mpr rfl
  · rw [hanswer hk, answerOf_shown hshown, List.getElem?_eq_none hend]
    rfl

/-- The questions of a console take the lines of its input in order, and a question that
could not be shown takes none. -/
theorem questions_take_lines (input : Text.Bytes) :
    ∃ lines, (∀ cut, Cut input cut ↔ cut = lines) ∧
      (∀ written questions,
        let c : Console := ⟨input, written, none, none⟩
        LineByLine lines c questions (confirmAll c questions).1 (confirmAll c questions).2) ∧
      (∀ questions,
        LinesKept lines questions (askEach input questions).1 (askEach input questions).2) ∧
      ∀ output questions,
        let c : Console := ⟨input, output⟩
        ((confirmAll c questions).1.map Reply.answer, (confirmAll c questions).2.input) =
          askEach input (c.meetings questions) := by
  refine ⟨inputLines input, fun _ => cut_iff, ?_, askEach_linesKept input, ?_⟩
  · intro written questions c
    have hunfailing : c.output.Unfailing := ⟨rfl, rfl⟩
    exact confirmAll_lineByLine hunfailing questions
  · intro output questions c
    exact confirmAll_eq_askEach c questions

end Console
end NodeGen
