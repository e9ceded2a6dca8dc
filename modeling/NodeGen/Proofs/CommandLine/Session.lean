/-
The law of sessions.

A session generates everything before it asks anything, and then takes the files
through the gate in order, up to the first one that fails.  `Passes` says so of any
gate, run by run.  Each run that returns an outcome has one summary line, and the
line is `Truthful`: it says what the run did.
-/
import NodeGen.CommandLine.Session
import NodeGen.Proofs.Files.Rewrite
import NodeGen.Proofs.Gate.Verdict

namespace NodeGen

open AtomicWrite FileTree

variable {σ τ : Type}

/-! ## Summaries -/

/-- The summary line says what a run with these actions did. -/
structure Truthful (path contents : String) (acts : List Event) (summary : String) : Prop where
  known : ∃ word ∈ ["written and formatted", "written, formatting failed", "written", "skipped"],
    summary = path ++ ": " ++ word
  formatted : summary = path ++ ": " ++ "written and formatted" ↔
    .formatted path (.ok ()) ∈ acts
  formatFailed : summary = path ++ ": " ++ "written, formatting failed" ↔
    ∃ e, .formatted path (.error e) ∈ acts
  written : summary = path ++ ": " ++ "written" ↔
    .wrote ⟨path, contents⟩ (.ok ()) ∈ acts ∧ ∀ p result, .formatted p result ∉ acts
  skipped : summary = path ++ ": " ++ "skipped" ↔ ∀ job result, .wrote job result ∉ acts
  /-- The formatter runs over the written file only. -/
  wrote : ∀ p result, .formatted p result ∈ acts →
    p = path ∧ .wrote ⟨path, contents⟩ (.ok ()) ∈ acts

theorem Outcome.Says.summary {o : Outcome} {path : String} {state : GateState} {written : Bool}
    (h : o.Says path state written) :
    o.summary = Outcome.summary ⟨path, state, [], written, none⟩ := by
  rw [Outcome.summary, Outcome.summary, h.path, h.state, h.written]

theorem Verdict.truthful {path contents : String} {acts : List Event} {o : Outcome}
    (h : Verdict path contents acts (.ok o)) : Truthful path contents acts o.summary := by
  cases h with
  | declinedWrite _ told =>
    rw [told.summary]
    constructor <;> simp [Outcome.summary]
  | declinedFormat _ told =>
    rw [told.summary]
    constructor <;> simp [Outcome.summary]
  | formatted told =>
    rw [told.summary]
    constructor <;> simp [Outcome.summary]
  | formatFailed told =>
    rw [told.summary]
    constructor <;> simp [Outcome.summary]

/-! ## Runs of the gate -/

section Runs

variable [Confirmer σ] [Formatter τ]

/-- What a run that returns an outcome did, as its summary line says. -/
def RunTruthful (g : Gate σ τ) (file : GeneratedFile) (o : Outcome) (g' : Gate σ τ) : Prop :=
  ∃ full acts, g.disk.absolute file.path = .ok full ∧ g.Does g' acts g'.world ∧
    Replay g.world acts g'.world ∧ Truthful full file.text acts o.summary ∧
    (o.summary = full ++ ": " ++ "skipped" → g'.disk = g.disk)

/-- A run that fails runs no formatter, and changes no entry but the one that its own
path names. -/
structure RunKept (g : Gate σ τ) (file : GeneratedFile) (g' : Gate σ τ) : Prop where
  formatter : g'.formatter = g.formatter
  disk : ∀ place e, g.disk.tree.get? place = some e → g'.disk.tree.get? place ≠ some e →
    ∃ full dir name, g.disk.absolute file.path = .ok full ∧
      Names (prepared ⟨full, file.text⟩ g.disk).tree (Job.target ⟨full, file.text⟩) dir name ∧
      place = dir ++ [name]

/-- A run that wrote nothing left the disk alone. -/
theorem Course.disk_of_skipped {w w' : World σ τ} {path contents : String} {acts : List Event}
    (h : Course w path contents acts w') (hno : ∀ job result, .wrote job result ∉ acts) :
    w'.disk = w.disk := by
  cases h with
  | refusedWrite => rfl
  | failedWrite => exact absurd (List.mem_cons_of_mem _ List.mem_cons_self) (hno _ _)
  | refusedFormat => exact absurd (List.mem_cons_of_mem _ List.mem_cons_self) (hno _ _)
  | formatted => exact absurd (List.mem_cons_of_mem _ List.mem_cons_self) (hno _ _)

/-- A run that fails did so before the formatter. -/
theorem Course.disk_of_failed {w w' : World σ τ} {path contents : String} {acts : List Event}
    {e : GateError} (h : Course w path contents acts w')
    (hfailed : Verdict path contents acts (.error e)) :
    w'.formatter = w.formatter ∧
      (w'.disk = w.disk ∨ w'.disk = (AtomicWrite.run ⟨path, contents⟩ w.disk).2) := by
  cases h with
  | refusedWrite => exact ⟨rfl, .inl rfl⟩
  | failedWrite _ _ wrote => exact ⟨rfl, .inr (congrArg Prod.snd wrote).symm⟩
  | refusedFormat _ _ wrote => exact ⟨rfl, .inr (congrArg Prod.snd wrote).symm⟩
  | formatted => cases hfailed

theorem Gate.run_truthful {g g'  : Gate σ τ} {file : GeneratedFile} {o : Outcome}
    (h : g.run file.path file.text = (.ok o, g')) : RunTruthful g file o g' := by
  cases hfull : g.disk.absolute file.path with
  | error e =>
    rw [Gate.run_unknown hfull] at h
    cases h
  | ok full =>
    obtain ⟨acts, w, hdoes, hcourse⟩ := g.run_course file.text hfull
    have hverdict := hcourse.verdict hfull
    rw [h] at hdoes hverdict
    have hworld : g'.world = w := hdoes.world
    subst hworld
    refine ⟨full, acts, hfull, hdoes, hcourse.replay, hverdict.truthful, ?_⟩
    intro hskipped
    exact hcourse.disk_of_skipped (hverdict.truthful.skipped.mp hskipped)

theorem Gate.run_kept {g g' : Gate σ τ} {file : GeneratedFile} {e : GateError}
    (h : g.run file.path file.text = (.error e, g')) : RunKept g file g' := by
  cases hfull : g.disk.absolute file.path with
  | error e =>
    rw [Gate.run_unknown hfull] at h
    cases h
    exact ⟨rfl, fun place e he hne => absurd he hne⟩
  | ok full =>
    obtain ⟨acts, w, hdoes, hcourse⟩ := g.run_course file.text hfull
    have hverdict := hcourse.verdict hfull
    rw [h] at hdoes hverdict
    have hworld : g'.world = w := hdoes.world
    subst hworld
    obtain ⟨hformatter, hdisk⟩ := hcourse.disk_of_failed hverdict
    refine ⟨hformatter, ?_⟩
    intro place entry hbefore hafter
    -- Either the write was not agreed to, or it is the one thing that touched the disk.
    rcases hdisk with hsame | hwrote
    · exact absurd ((congrArg (fun d => d.tree.get? place) hsame).trans hbefore) hafter
    · have hchanged : (AtomicWrite.run ⟨full, file.text⟩ g.disk).2.tree.get? place ≠
          some entry := by
        intro heq
        exact hafter ((congrArg (fun d => d.tree.get? place) hwrote).trans heq)
      obtain ⟨dir, name, hnames, hplace⟩ := run_changes hbefore hchanged
      exact ⟨full, dir, name, hfull, hnames, hplace⟩

end Runs

/-! ## Files in order -/

namespace Session

section Files

variable [Confirmer σ] [Formatter τ]

/-- Every file has a run that returns an outcome, on the gate that the run before it
left. -/
inductive Handles : Gate σ τ → List GeneratedFile → List Outcome → Gate σ τ → Prop where
  | nil (g : Gate σ τ) : Handles g [] [] g
  | cons {g g' g'' : Gate σ τ} {file : GeneratedFile} {rest : List GeneratedFile} {o : Outcome}
      {outcomes : List Outcome} (run : g.run file.path file.text = (.ok o, g'))
      (truthful : RunTruthful g file o g') (next : Handles g' rest outcomes g'') :
      Handles g (file :: rest) (o :: outcomes) g''

/-- The files are handled one after the other, all of them or up to the first one
whose run fails. -/
inductive Passes (g : Gate σ τ) (files : List GeneratedFile) (p : Progress σ τ) : Prop where
  | done (handled : Handles g files p.outcomes p.gate) (failure : p.failure = none)
  | stopped {before after : List GeneratedFile} {file : GeneratedFile} {g' : Gate σ τ}
      {e : GateError} (split : files = before ++ file :: after)
      (handled : Handles g before p.outcomes g')
      (run : g'.run file.path file.text = (.error e, p.gate)) (kept : RunKept g' file p.gate)
      (failure : p.failure = some e)

theorem passFiles_error {g g' : Gate σ τ} {file : GeneratedFile} {e : GateError}
    (h : g.run file.path file.text = (.error e, g')) (rest : List GeneratedFile) :
    passFiles g (file :: rest) = ⟨[], some e, g'⟩ := by
  simp only [passFiles, h]

theorem passFiles_ok {g g' : Gate σ τ} {file : GeneratedFile} {o : Outcome}
    (h : g.run file.path file.text = (.ok o, g')) (rest : List GeneratedFile) :
    passFiles g (file :: rest) =
      { passFiles g' rest with outcomes := o :: (passFiles g' rest).outcomes } := by
  simp only [passFiles, h]

theorem passFiles_passes (g : Gate σ τ) (files : List GeneratedFile) :
    Passes g files (passFiles g files) := by
  induction files generalizing g with
  | nil => exact .done (.nil g) rfl
  | cons file rest ih =>
    rcases hrun : g.run file.path file.text with ⟨e | o, g'⟩
    · have hsplit : file :: rest = [] ++ file :: rest := rfl
      rw [passFiles_error hrun]
      exact .stopped hsplit (.nil g) hrun (Gate.run_kept hrun) rfl
    · have htruthful := Gate.run_truthful hrun
      rw [passFiles_ok hrun]
      cases ih g' with
      | done handled failure => exact .done (.cons hrun htruthful handled) failure
      | stopped split handled run kept failure =>
        exact .stopped (congrArg (file :: ·) split) (.cons hrun htruthful handled) run kept failure

/-- The progress through the files, with the status and the lines that it comes to. -/
structure Lawful (g : Gate σ τ) (files : List GeneratedFile) (p : Progress σ τ) : Prop where
  passes : Passes g files p
  done : p.failure = none →
    p.status = 0 ∧ p.stdout = unlines (p.outcomes.map Outcome.summary ++ [doneLine])
  stopped : p.failure ≠ none →
    p.status = 1 ∧ p.stdout = unlines (p.outcomes.map Outcome.summary)

theorem passFiles_lawful (g : Gate σ τ) (files : List GeneratedFile) :
    Lawful g files (passFiles g files) := by
  refine ⟨passFiles_passes g files, ?_, ?_⟩
  · intro hnone
    rw [Progress.status, Progress.stdout, hnone]
    exact ⟨rfl, rfl⟩
  · intro hsome
    obtain ⟨e, he⟩ := Option.ne_none_iff_exists'.mp hsome
    rw [Progress.status, Progress.stdout, he]
    exact ⟨rfl, congrArg unlines (List.append_nil _)⟩

end Files

/-! ## Generation -/

theorem familiesOf_unknown {names : List String} {name : String} (hname : name ∈ names)
    (hunknown : Family.builtin? name = none) :
    ∃ x, familiesOf names = .error (.unknownFamily x) := by
  induction names with
  | nil => cases hname
  | cons first rest ih =>
    cases hfirst : Family.builtin? first with
    | none => exact ⟨first, by simp only [familiesOf, hfirst]⟩
    | some f =>
      have hrest : name ∈ rest := by
        rcases List.mem_cons.mp hname with rfl | hrest
        · rw [hunknown] at hfirst
          cases hfirst
        · exact hrest
      obtain ⟨x, hx⟩ := ih hrest
      exact ⟨x, by simp only [familiesOf, hfirst, hx]⟩

theorem generate_unknown {options : Options} {name : String} (config : Config)
    (hname : name ∈ options.families) (hunknown : Family.builtin? name = none) :
    ∃ x, (generate options config).collect = (.error (.unknownFamily x), []) := by
  obtain ⟨x, hx⟩ := familiesOf_unknown hname hunknown
  refine ⟨x, ?_⟩
  rw [generate, if_neg (List.ne_nil_of_mem hname), Generation.named, hx]
  rfl

/-! ## Sessions -/

theorem run_of_options {arguments : List String} {options : Options}
    (h : Options.ofArguments arguments = .ok options) (env : Environment) :
    run arguments env = runOptions options env := by
  rw [run, h]

/-- What a session reports that generated all files and did not print them. -/
def Progress.report (p : Progress σ GoFmt) (level : Level) (log : List Record) : Report :=
  ⟨p.status, p.stdout, log.flatMap (recordText level) ++ p.stderr level, p.gate.disk,
    p.gate.formatter.calls⟩

theorem runOptions_error {options : Options} {env : Environment} {e : GenerateError}
    {log : List Record}
    (h : (generate options (options.config env.projectRoot)).collect = (.error e, log)) :
    runOptions options env =
      ⟨1, "", log.flatMap (recordText options.level) ++ errorText e.message, env.disk, []⟩ := by
  simp only [runOptions, h]
  rfl

theorem runOptions_files {options : Options} {env : Environment} {files : List GeneratedFile}
    {log : List Record}
    (h : (generate options (options.config env.projectRoot)).collect = (.ok files, log))
    (hprint : options.print = false) :
    runOptions options env =
      Progress.report (passFiles (env.gate options) files) options.level log := by
  simp only [runOptions, h, hprint, Bool.false_eq_true, if_false]
  rfl

/-- A session that cannot generate every file asks nothing and changes nothing.  One
that can takes the files through the gate in order, as it is done with any confirmer
and any formatter. -/
theorem run_lawful [Confirmer σ] [Formatter τ] {arguments : List String} {options : Options}
    (h : Options.ofArguments arguments = .ok options) (env : Environment) (g : Gate σ τ)
    (files : List GeneratedFile) :
    let generated := (generate options (options.config env.projectRoot)).collect
    (∀ name ∈ options.families, Family.builtin? name = none → ∃ e, generated.1 = .error e) ∧
    (∀ e, generated.1 = .error e → run arguments env =
      ⟨1, "", generated.2.flatMap (recordText options.level) ++ errorText e.message, env.disk,
        []⟩) ∧
    (∀ requested, generated.1 = .ok requested → options.print = false →
      ∃ p, Lawful (env.gate options) requested p ∧
        run arguments env = Progress.report p options.level generated.2) ∧
    Lawful g files (passFiles g files) := by
  intro generated
  refine ⟨?_, ?_, ?_, passFiles_lawful g files⟩
  · intro name hname hunknown
    obtain ⟨x, hx⟩ := generate_unknown (options.config env.projectRoot) hname hunknown
    exact ⟨_, congrArg Prod.fst hx⟩
  · intro e he
    rw [run_of_options h]
    exact runOptions_error (Prod.ext he rfl)
  · intro requested hrequested hprint
    refine ⟨passFiles (env.gate options) requested, passFiles_lawful _ _, ?_⟩
    rw [run_of_options h]
    exact runOptions_files (Prod.ext hrequested rfl) hprint

/-- A disk with nothing on it, and an operator who agrees to everything. -/
def eagerEnvironment : Environment where
  stdin := Text.encode "y\ny\ny\ny\n"
  disk := Disk.sound ⟨[], [], []⟩
  formatter := .missing
  projectRoot := "/work"

/-- One session names a family that there is none of, and one writes the file of a family
and cannot format it. -/
theorem run_lawful_eager :
    (Options.ofArguments ["--family", "stmt", "--family", "decl"] =
        .ok { Options.default with families := ["stmt", "decl"] } ∧
      ∃ e, run ["--family", "stmt", "--family", "decl"] eagerEnvironment =
        ⟨1, "", errorText (GenerateError.message e), eagerEnvironment.disk, []⟩) ∧
    let options := { Options.default with families := ["stmt"] }
    Options.ofArguments ["--family", "stmt"] = .ok options ∧
      ∃ files p log, (generate options (options.config "/work")).collect = (.ok files, log) ∧
        Lawful (eagerEnvironment.gate options) files p ∧
        run ["--family", "stmt"] eagerEnvironment = Progress.report p options.level log ∧
        p.status = 0 ∧ p.stdout = "/work/glox/stmt.go: written, formatting failed\nDone!\n" := by
  constructor
  · have hoptions : Options.ofArguments ["--family", "stmt", "--family", "decl"] =
        .ok { Options.default with families := ["stmt", "decl"] } := by decide
    obtain ⟨hunknown, herror, -, -⟩ := run_lawful hoptions eagerEnvironment
      (eagerEnvironment.gate Options.default) []
    obtain ⟨e, he⟩ := hunknown "decl" (by decide) (by decide)
    exact ⟨hoptions, e, herror e he⟩
  · intro options
    have hoptions : Options.ofArguments ["--family", "stmt"] = .ok options := by decide
    obtain ⟨hstatus, hstdout⟩ : (run ["--family", "stmt"] eagerEnvironment).status = 0 ∧
        (run ["--family", "stmt"] eagerEnvironment).stdout.toList =
          "/work/glox/stmt.go: written, formatting failed\nDone!\n".toList := by decide +kernel
    obtain ⟨-, herror, hfiles, -⟩ := run_lawful hoptions eagerEnvironment
      (eagerEnvironment.gate options) []
    rcases hgenerated : (generate options (options.config "/work")).collect with ⟨e | files, log⟩
    · rw [herror e (congrArg Prod.fst hgenerated)] at hstatus
      cases hstatus
    · obtain ⟨p, hlawful, hrun⟩ := hfiles files (congrArg Prod.fst hgenerated) rfl
      have hlog : (generate options (options.config eagerEnvironment.projectRoot)).collect.2 = log :=
        congrArg Prod.snd hgenerated
      rw [hlog] at hrun
      rw [hrun] at hstatus hstdout
      exact ⟨hoptions, files, p, log, rfl, hlawful, hrun, hstatus, String.toList_inj.mp hstdout⟩

end Session
end NodeGen
