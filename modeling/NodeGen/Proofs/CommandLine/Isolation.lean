/-
Flags keep from a session what they switch off.

Everything here is read off the events of a session.  They are those that happened, and
no action comes before the consent to it (`Acted`).  The flags say which questions are
left to the operator, and the lines of the input answer these one by one (`Answered`).
So with `--yes` every write is agreed to and nothing is read, and with `--no-format` no
formatter runs, which makes it the same for all of them.
-/
import NodeGen.Proofs.CommandLine.Session
import NodeGen.Proofs.Gate.Answers
import NodeGen.Proofs.Gate.Consent
import NodeGen.Proofs.Gate.Formatters
import NodeGen.Proofs.Generator.Translation

namespace NodeGen

open AtomicWrite

variable {σ τ : Type}

/-! ## Events of a session -/

section Acts

variable [Confirmer σ] [Formatter τ]

/-- From the first gate to the second these events happened, with the consent that they
need. -/
structure Acted (g g' : Gate σ τ) (events : List Event) : Prop where
  grown : g'.events = g.events ++ events
  consented : Consented events
  replay : Replay g.world (actions events) g'.world

theorem Acted.refl (g : Gate σ τ) : Acted g g [] :=
  ⟨(List.append_nil _).symm, consented_nil, .done _⟩

theorem Acted.trans {g g' g'' : Gate σ τ} {a b : List Event} (h : Acted g g' a)
    (h' : Acted g' g'' b) : Acted g g'' (a ++ b) where
  grown := by rw [h'.grown, h.grown, List.append_assoc]
  consented := h.consented.append h'.consented
  replay := by
    rw [actions_append]
    exact h.replay.append h'.replay

theorem Gate.run_acted {g g' : Gate σ τ} {path contents : String}
    {r : Except GateError Outcome} (h : g.run path contents = (r, g')) :
    ∃ events, Acted g g' events := by
  obtain ⟨events, hevents, hconsented, hreplay, -⟩ := g.run_consentKept path contents
  rw [h] at hevents hreplay
  exact ⟨events, hevents, hconsented, hreplay⟩

theorem Acted.formatter_eq {g g' : Gate σ τ} {events : List Event} (h : Acted g g' events)
    (hno : Unformatted events) : g'.formatter = g.formatter :=
  h.replay.formatter_eq fun path result hmem => hno path result (mem_of_mem_actions hmem)

theorem Session.passFiles_acted (g : Gate σ τ) (files : List GeneratedFile) :
    ∃ events, Acted g (passFiles g files).gate events := by
  induction files generalizing g with
  | nil => exact ⟨[], .refl g⟩
  | cons file rest ih =>
    rcases hrun : g.run file.path file.text with ⟨e | o, g'⟩
    · rw [passFiles_error hrun]
      exact Gate.run_acted hrun
    · rw [passFiles_ok hrun]
      obtain ⟨events, hacted⟩ := Gate.run_acted hrun
      obtain ⟨events', hacted'⟩ := ih g'
      exact ⟨_, hacted.trans hacted'⟩

theorem Session.mem_passFiles {g : Gate σ τ} {event : Event} (h : event ∈ g.events)
    (files : List GeneratedFile) : event ∈ (passFiles g files).gate.events := by
  obtain ⟨events, hacted⟩ := passFiles_acted g files
  rw [hacted.grown]
  exact List.mem_append_left _ h

end Acts

/-! ## Writes in order -/

/-- The write that the event is, and its result. -/
def Event.write? : Event → Option (Job × Except WriteError Unit)
  | .wrote job result => some (job, result)
  | _ => none

/-- The write is agreed to, or the question about the format got an answer. -/
def Event.Settled : Event → Prop
  | .asked .write _ reply => reply.answer = .ok true
  | .asked .format _ reply => ∃ answer, reply.answer = .ok answer
  | _ => True

theorem filterMap_write?_actions (events : List Event) :
    (actions events).filterMap Event.write? = events.filterMap Event.write? := by
  rw [actions, List.filterMap_filter]
  refine List.filterMap_congr fun event _ => ?_
  cases event <;> rfl

/-- What a run returns whose write came out like this, and was not held up by a question. -/
inductive WriteDecides (path : String) :
    Except WriteError Unit → Except GateError Outcome → Prop where
  | done {o : Outcome} (told : o.path = path) (written : o.written = true) :
    WriteDecides path (.ok ()) (.ok o)
  | failed {e : WriteError} : WriteDecides path (.error e) (.error (.write e))

theorem Verdict.writes {path contents : String} {acts : List Event}
    {r : Except GateError Outcome} (h : Verdict path contents acts r)
    (hs : ∀ event ∈ acts, event.Settled) :
    ∃ result, acts.filterMap Event.write? = [(⟨path, contents⟩, result)] ∧
      WriteDecides path result r := by
  cases h with
  | declinedWrite answer _ =>
    have hagreed := (hs _ List.mem_cons_self).symm.trans answer
    cases hagreed
  | unansweredWrite answer =>
    have hagreed := (hs _ List.mem_cons_self).symm.trans answer
    cases hagreed
  | failedWrite => exact ⟨_, rfl, .failed⟩
  | declinedFormat _ told => exact ⟨_, rfl, .done told.path told.written⟩
  | unansweredFormat answer =>
    obtain ⟨b, hb⟩ := hs _ (.tail _ (.tail _ (.head _)))
    cases hb.symm.trans answer
  | formatted told => exact ⟨_, rfl, .done told.path told.written⟩
  | formatFailed told => exact ⟨_, rfl, .done told.path told.written⟩

/-- A run that is agreed to comes to its write, and fails only with it. -/
theorem Gate.run_writes [Confirmer σ] [Formatter τ] {g g' : Gate σ τ} {path full contents : String}
    {r : Except GateError Outcome} (hfull : g.disk.absolute path = .ok full)
    (hrun : g.run path contents = (r, g')) (h : ∀ event ∈ g'.events, event.Settled) :
    ∃ result, g'.events.filterMap Event.write? =
        g.events.filterMap Event.write? ++ [(⟨full, contents⟩, result)] ∧
      WriteDecides full result r := by
  obtain ⟨acts, w, ⟨⟨events, hevents, hacts⟩, -⟩, hcourse⟩ := g.run_course contents hfull
  have hverdict := hcourse.verdict hfull
  rw [hrun] at hverdict hevents
  have hsettled : ∀ event ∈ acts, event.Settled := by
    intro event hevent
    refine h event ?_
    rw [hevents]
    exact List.mem_append_right _ (mem_of_mem_actions (hacts ▸ hevent))
  obtain ⟨result, hwrites, hdecides⟩ := hverdict.writes hsettled
  refine ⟨result, ?_, hdecides⟩
  rw [hevents, List.filterMap_append, ← filterMap_write?_actions events, hacts, hwrites]

namespace Session

section Writes

variable [Confirmer σ] [Formatter τ]

/-- The files are written one after the other, until a write fails or a path has no
directory to start from. -/
inductive Writes : Gate σ τ → List GeneratedFile → List (Job × Except WriteError Unit) →
    Progress σ τ → Prop where
  | done (g : Gate σ τ) : Writes g [] [] ⟨[], none, g⟩
  | wrote {g g' : Gate σ τ} {file : GeneratedFile} {rest : List GeneratedFile} {o : Outcome}
      {path : String} {ws : List (Job × Except WriteError Unit)} {p : Progress σ τ}
      (run : g.run file.path file.text = (.ok o, g'))
      (absolute : g.disk.absolute file.path = .ok path) (told : o.path = path)
      (written : o.written = true) (next : Writes g' rest ws p) :
      Writes g (file :: rest) ((⟨path, file.text⟩, .ok ()) :: ws)
        { p with outcomes := o :: p.outcomes }
  | failed {g g' : Gate σ τ} {file : GeneratedFile} {rest : List GeneratedFile} {path : String}
      {e : WriteError} (run : g.run file.path file.text = (.error (.write e), g'))
      (absolute : g.disk.absolute file.path = .ok path) :
      Writes g (file :: rest) [(⟨path, file.text⟩, .error e)] ⟨[], some (.write e), g'⟩
  | lost {g : Gate σ τ} {file : GeneratedFile} {rest : List GeneratedFile} {e : IoError}
      (run : g.run file.path file.text = (.error (.write ⟨file.path, e⟩), g))
      (absolute : g.disk.absolute file.path = .error e) :
      Writes g (file :: rest) [] ⟨[], some (.write ⟨file.path, e⟩), g⟩

theorem passFiles_writes (g : Gate σ τ) (files : List GeneratedFile)
    (h : ∀ event ∈ (passFiles g files).gate.events, event.Settled) :
    ∃ ws, (passFiles g files).gate.events.filterMap Event.write? =
        g.events.filterMap Event.write? ++ ws ∧ Writes g files ws (passFiles g files) := by
  induction files generalizing g with
  | nil => exact ⟨[], (List.append_nil _).symm, .done g⟩
  | cons file rest ih =>
    cases hfull : g.disk.absolute file.path with
    | error e =>
      have hrun : g.run file.path file.text = (.error (.write ⟨file.path, e⟩), g) :=
        Gate.run_unknown hfull
      rw [passFiles_error hrun]
      exact ⟨[], (List.append_nil _).symm, .lost hrun hfull⟩
    | ok full =>
      rcases hrun : g.run file.path file.text with ⟨e | o, g'⟩
      · rw [passFiles_error hrun] at h ⊢
        obtain ⟨result, hwrites, hdecides⟩ := Gate.run_writes hfull hrun h
        cases hdecides with
        | failed => exact ⟨_, hwrites, .failed hrun hfull⟩
      · rw [passFiles_ok hrun] at h ⊢
        obtain ⟨result, hwrites, hdecides⟩ := Gate.run_writes hfull hrun
          fun event hevent => h event (mem_passFiles hevent rest)
        cases hdecides with
        | done told written =>
          obtain ⟨ws, hnext, hwritten⟩ := ih g' h
          refine ⟨_, ?_, .wrote hrun hfull told written hwritten⟩
          rw [hnext, hwrites, List.append_assoc]
          rfl

/-! ## Sessions without a formatter -/

def Progress.withFormatter (p : Progress σ τ) (f : τ) : Progress σ τ :=
  { p with gate := p.gate.withFormatter f }

theorem passFiles_withFormatter {g : Gate σ τ} {f : τ} (files : List GeneratedFile)
    (hf : SameCommand f g.formatter) (hno : Unformatted (passFiles g files).gate.events) :
    passFiles (g.withFormatter f) files = (passFiles g files).withFormatter f := by
  induction files generalizing g with
  | nil => rfl
  | cons file rest ih =>
    rcases hrun : g.run file.path file.text with ⟨e | o, g'⟩
    · rw [passFiles_error hrun] at hno ⊢
      exact passFiles_error (Gate.run_withFormatter hrun hf hno) rest
    · rw [passFiles_ok hrun] at hno ⊢
      have hbefore : Unformatted g'.events :=
        fun path result hmem => hno path result (mem_passFiles hmem rest)
      obtain ⟨events, hacted⟩ := Gate.run_acted hrun
      have hsame : g'.formatter = g.formatter := by
        refine hacted.formatter_eq fun path result hmem => hbefore path result ?_
        rw [hacted.grown]
        exact List.mem_append_right _ hmem
      rw [passFiles_ok (Gate.run_withFormatter hrun hf hbefore), ih (hsame ▸ hf) hno]
      rfl

end Writes

/-! ## Flags of a session -/

/-- The gate that a session opens, with any formatter. -/
def Environment.gateWith (env : Environment) (options : Options) (f : τ) : Gate Strategy τ :=
  Gate.new (options.confirmFlags.strategyOf (Console.ofInput env.stdin)) f env.disk

/-- No prompt is shown, and the files are written in order until a run errs. -/
structure Unattended [Confirmer σ] [Formatter τ] (g : Gate σ τ) (files : List GeneratedFile)
    (p : Progress σ τ) : Prop where
  shown : ∀ event ∈ p.gate.events, event.shown = []
  writes : Writes g files (p.gate.events.filterMap Event.write?) p

/-- No formatter runs, and no prompt about one is shown. -/
structure Formatless (p : Progress σ τ) : Prop where
  formatted : Unformatted p.gate.events
  shown : ∀ prompt reply, .asked .format prompt reply ∈ p.gate.events → reply.shown = []

/-- Questions about writes are shown, and those about formats unless there is no format.
The lines answer the questions that are shown, each the one with its own number. -/
structure Attended (noFormat : Bool) (lines : List Text.Bytes) (p : Progress σ τ) : Prop where
  shown : ∀ step prompt reply, .asked step prompt reply ∈ p.gate.events →
    (reply.shown ≠ [] ↔ step = .write ∨ noFormat = false)
  asked : ∀ (k : Nat) (event : Event),
    (p.gate.events.filter fun event => event.shown ≠ [])[k]? = some event →
      ∃ step prompt, event = .asked step prompt (lineReply lines[k]? prompt)

section Flags

variable [Formatter τ] (options : Options) (env : Environment) (f : τ) (files : List GeneratedFile)

/-- The events of the gate are those of the session. -/
theorem acted :
    Acted (env.gateWith options f) (passFiles (env.gateWith options f) files).gate
      (passFiles (env.gateWith options f) files).gate.events := by
  obtain ⟨events, hacted⟩ := passFiles_acted (env.gateWith options f) files
  have hevents : (passFiles (env.gateWith options f) files).gate.events = events :=
    hacted.grown.trans (List.nil_append _)
  exact hevents ▸ hacted

/-- The questions are answered as the flags and the input say. -/
theorem answered :
    Answered options.confirmFlags (inputLines env.stdin)
      (passFiles (env.gateWith options f) files).gate.events := by
  have hsink : (Console.ofInput env.stdin).output.Unfailing := ⟨rfl, rfl⟩
  exact ((acted options env f files).replay.answered hsink rfl).of_actions

variable {options}

theorem unattended (hyes : options.yes = true) :
    Unattended (env.gateWith options f) files (passFiles (env.gateWith options f) files) := by
  have hanswered := answered options env f files
  have hasks (step : Step) : options.confirmFlags.asks step = false := by
    cases step <;> simp [ConfirmFlags.asks, Options.confirmFlags, hyes]
  constructor
  · intro event hmem
    by_contra hshown
    have hprompts := (hanswered.shown_iff hmem).mp hshown
    cases event with
    | asked step prompt reply => exact absurd hprompts (by simp [Event.prompts, hasks])
    | _ => cases hprompts
  · have hsettled : ∀ event ∈ (passFiles (env.gateWith options f) files).gate.events,
        event.Settled := by
      intro event hmem
      cases event with
      | asked step prompt reply =>
        obtain rfl := hanswered.preset step prompt reply hmem (hasks step)
        cases step with
        | write => rfl
        | format => exact ⟨_, rfl⟩
      | _ => trivial
    obtain ⟨ws, hws, hwrites⟩ := passFiles_writes (env.gateWith options f) files hsettled
    rw [hws]
    exact hwrites

theorem formatless (hno : options.noFormat = true) :
    Formatless (passFiles (env.gateWith options f) files) := by
  have hasks : options.confirmFlags.asks .format = false := by
    simp [ConfirmFlags.asks, Options.confirmFlags, hno]
  have hdeclined (prompt : String) (reply : Reply)
      (hmem : .asked .format prompt reply ∈
        (passFiles (env.gateWith options f) files).gate.events) :
      reply = Strategy.silent false := by
    rw [(answered options env f files).preset .format prompt reply hmem hasks]
    simp [ConfirmFlags.preset, Options.confirmFlags, hno]
  constructor
  · intro path result hmem
    -- The formatter would have needed a consent that no one gives.
    obtain ⟨before, after, hsplit⟩ := List.append_of_mem hmem
    obtain ⟨prompt, reply, hbefore, hagreed⟩ :=
      (acted options env f files).consented before _ after hsplit .format rfl
    have hasked : .asked .format prompt reply ∈
        (passFiles (env.gateWith options f) files).gate.events := by
      rw [hsplit]
      exact List.mem_append_left _ hbefore
    rw [hdeclined prompt reply hasked] at hagreed
    cases hagreed
  · intro prompt reply hmem
    rw [hdeclined prompt reply hmem]
    rfl

theorem attended (hyes : options.yes = false) :
    Attended options.noFormat (inputLines env.stdin)
      (passFiles (env.gateWith options f) files) := by
  have hanswered := answered options env f files
  constructor
  · intro step prompt reply hmem
    have hshown := hanswered.shown_iff hmem
    cases step <;> simpa [Event.shown, Event.prompts, ConfirmFlags.asks, Options.confirmFlags, hyes]
      using hshown
  · intro k event hevent
    have hfilter : ((passFiles (env.gateWith options f) files).gate.events.filter
        fun event => event.shown ≠ []) =
        (passFiles (env.gateWith options f) files).gate.events.filter
          (Event.prompts options.confirmFlags) := by
      refine List.filter_congr fun event hmem => ?_
      rw [Bool.eq_iff_iff, decide_eq_true_iff]
      exact hanswered.shown_iff hmem
    exact hanswered.asked k event (hfilter ▸ hevent)

/-- Formatters that differ in what they do make no difference when none of them runs. -/
theorem passFiles_formatless (hno : options.noFormat = true) {f' : τ} (hf : SameCommand f' f) :
    passFiles (env.gateWith options f') files =
      (passFiles (env.gateWith options f) files).withFormatter f' :=
  passFiles_withFormatter (g := env.gateWith options f) files hf
    (formatless env f files hno).formatted

end Flags

/-! ## Two sessions -/

section Sessions

variable {options : Options} {env : Environment}

theorem runOptions_stdin (hyes : options.yes = true) (input : Text.Bytes) :
    runOptions options { env with stdin := input } = runOptions options env := by
  have hflags : options.confirmFlags.yes = true := hyes
  have hconfirmer := ConfirmFlags.strategyOf_of_yes hflags (Console.ofInput input)
    (Console.ofInput env.stdin)
  have hgate : Environment.gate { env with stdin := input } options = env.gate options :=
    congrArg (fun confirmer => Gate.new confirmer (GoFmt.mk env.formatter []) env.disk) hconfirmer
  simp only [runOptions, hgate]
  rfl

theorem calls_nil (hno : options.noFormat = true) (files : List GeneratedFile) :
    (passFiles (env.gate options) files).gate.formatter.calls = [] := by
  have hacted := acted options env (GoFmt.mk env.formatter []) files
  exact congrArg GoFmt.calls (hacted.formatter_eq (formatless env _ files hno).formatted)

theorem runOptions_formatter (hno : options.noFormat = true) (program : Program) :
    runOptions options { env with formatter := program } = runOptions options env := by
  cases hgenerated : (generate options (options.config env.projectRoot)).collect.1 with
  | error e =>
    simp only [runOptions, hgenerated]
    rfl
  | ok files =>
    have hpass : passFiles (Environment.gate { env with formatter := program } options) files =
        (passFiles (env.gate options) files).withFormatter ⟨program, []⟩ :=
      passFiles_formatless env (GoFmt.mk env.formatter []) files hno fun _ => rfl
    have hcalls : (passFiles (env.gate options) files).gate.formatter.calls = [] :=
      calls_nil hno files
    simp only [runOptions, hgenerated, hpass, hcalls]
    rfl

theorem runOptions_calls (hno : options.noFormat = true) :
    (runOptions options env).formatterCalls = [] := by
  cases hgenerated : (generate options (options.config env.projectRoot)).collect.1 with
  | error e =>
    simp only [runOptions, hgenerated]
    rfl
  | ok files =>
    simp only [runOptions, hgenerated]
    split
    · rfl
    · exact calls_nil hno files

end Sessions

/-- With `--yes` a session does not depend on its input, shows no question and writes its
files in order.  With `--no-format` it does not depend on what the formatter would do,
which does not run and is not asked about.  Without `--yes` the questions of all files,
about either step, are answered from one input, line by line. -/
theorem run_isolated [Formatter τ] {arguments : List String} {options : Options}
    (h : Options.ofArguments arguments = .ok options) (hprint : options.print = false)
    (env : Environment) (f f' : τ) :
    let generated := (generate options (options.config env.projectRoot)).collect
    (options.yes = true → ∀ input, run arguments { env with stdin := input } = run arguments env) ∧
    (options.noFormat = true →
      (∀ program, run arguments { env with formatter := program } = run arguments env) ∧
      (run arguments env).formatterCalls = [] ∧
      (SameCommand f' f → ∀ files, passFiles (env.gateWith options f') files =
        (passFiles (env.gateWith options f) files).withFormatter f')) ∧
    ∀ files, generated.1 = .ok files →
      let p := passFiles (env.gate options) files
      run arguments env = Progress.report p options.level generated.2 ∧
        (options.yes = true → Unattended (env.gate options) files p) ∧
        (options.noFormat = true → Formatless p) ∧
        (options.yes = false → Attended options.noFormat (inputLines env.stdin) p) := by
  intro generated
  simp only [run_of_options h]
  refine ⟨fun hyes input => runOptions_stdin hyes input, ?_, ?_⟩
  · intro hno
    exact ⟨fun program => runOptions_formatter hno program, runOptions_calls hno,
      fun hf files => passFiles_formatless env f files hno hf⟩
  · intro files hfiles
    have hreport := runOptions_files (Prod.ext hfiles rfl) hprint
    exact ⟨hreport, unattended env _ files, formatless env _ files, attended env _ files⟩

/-- The built-in families, once without questions and once with both of them for each file. -/
theorem run_isolated_builtin :
    let files := builtinFamilies.map (Generation.generated (Config.default "/work"))
    let unattended := { Options.default with yes := true, noFormat := true }
    Options.ofArguments ["--yes", "--no-format"] = .ok unattended ∧
      run ["--yes", "--no-format"] { eagerEnvironment with stdin := [] } =
        run ["--yes", "--no-format"] eagerEnvironment ∧
      run ["--yes", "--no-format"] { eagerEnvironment with formatter := .notExecutable } =
        run ["--yes", "--no-format"] eagerEnvironment ∧
      Unattended (eagerEnvironment.gate unattended) files
        (passFiles (eagerEnvironment.gate unattended) files) ∧
      Options.ofArguments [] = .ok Options.default ∧
      Attended false (inputLines eagerEnvironment.stdin)
        (passFiles (eagerEnvironment.gate Options.default) files) := by
  intro files unattended
  have hgenerated (options : Options) (hall : options.families = [])
      (hconfig : options.config "/work" = Config.default "/work") :
      (generate options (options.config "/work")).collect.1 = .ok files := by
    rw [generate, if_pos hall, hconfig]
    exact congrArg Prod.fst (Generation.all_gives _).collect
  have hunattended : Options.ofArguments ["--yes", "--no-format"] = .ok unattended := by decide
  have hattended : Options.ofArguments [] = .ok Options.default := by decide
  obtain ⟨hstdin, hformatter, hgate⟩ := run_isolated hunattended rfl eagerEnvironment
    (Recorder.mk [] []) (Recorder.mk [some "no space"] [])
  obtain ⟨-, -, hgate'⟩ := run_isolated hattended rfl eagerEnvironment
    (Recorder.mk [] []) (Recorder.mk [some "no space"] [])
  obtain ⟨-, hwrites, -, -⟩ := hgate files (hgenerated unattended rfl rfl)
  obtain ⟨-, -, -, hlines⟩ := hgate' files (hgenerated Options.default rfl rfl)
  exact ⟨hunattended, hstdin rfl [], (hformatter rfl).1 .notExecutable, hwrites rfl, hattended,
    hlines rfl⟩

end Session
end NodeGen
