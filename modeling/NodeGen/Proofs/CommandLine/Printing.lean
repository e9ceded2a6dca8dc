/-
Printing and writing.

A session that prints gives out the texts that one which writes would put in files, and
does nothing else.  With `--yes` and `--no-format` a session is a series of atomic writes
(`Writes.series`), and the names of the families keep these apart.
-/
import NodeGen.Proofs.CommandLine.Isolation
import NodeGen.Proofs.Files.Series
import NodeGen.Proofs.Generator.Faithful
import NodeGen.Proofs.Generator.Selection

namespace NodeGen

open AtomicWrite FileTree

variable {σ τ : Type}

/-- The names of the families that the options ask for. -/
def Options.requested (options : Options) : List String :=
  if options.families = [] then ["expr", "stmt"] else options.families

theorem Options.requested_known {options : Options}
    (h : ∀ name ∈ options.families, KnownFamily name) :
    ∀ name ∈ options.requested, KnownFamily name := by
  rw [Options.requested]
  split
  · decide
  · exact h

/-! ## Runs that write and do not format -/

/-- A run that wrote the file and ran no formatter is the write alone. -/
theorem Gate.run_written [Confirmer σ] [Formatter τ] {g g' : Gate σ τ}
    {path full contents : String} {o : Outcome} (hrun : g.run path contents = (.ok o, g'))
    (hfull : g.disk.absolute path = .ok full) (hwritten : o.written = true)
    (hno : Unformatted g'.events) :
    AtomicWrite.run ⟨full, contents⟩ g.disk = (.ok (), g'.disk) ∧
      o.summary = full ++ ": " ++ "written" := by
  obtain ⟨acts, w, ⟨⟨events, hevents, hacts⟩, hworld⟩, hcourse⟩ := g.run_course contents hfull
  have hverdict := hcourse.verdict hfull
  rw [hrun] at hevents hworld hverdict
  have hunformatted : Unformatted acts := by
    intro p result hmem
    refine hno p result ?_
    rw [hevents]
    exact List.mem_append_right _ (mem_of_mem_actions (hacts ▸ hmem))
  have hdisk : g'.disk = w.disk := congrArg World.disk hworld
  cases hcourse with
  | refusedWrite =>
    -- the outcome would say that nothing was written
    cases hverdict with
    | declinedWrite _ told =>
      rw [told.written] at hwritten
      cases hwritten
  | failedWrite => cases hverdict
  | refusedFormat asked agreed wrote =>
    rw [hdisk]
    cases hverdict with
    | declinedFormat _ told => exact ⟨wrote, told.summary⟩
  | formatted => exact absurd (.tail _ (.tail _ (.tail _ (.head _)))) (hunformatted _ _)

namespace Session

/-! ## Series of writes -/

/-- The write that puts the text of a file at its path. -/
def JobOf (disk : Disk) (file : GeneratedFile) (job : Job) : Prop :=
  disk.absolute file.path = .ok job.path ∧ job.contents = file.text

section Series

variable [Confirmer σ] [Formatter τ]

theorem Writes.mem_events {g : Gate σ τ} {files : List GeneratedFile}
    {ws : List (Job × Except WriteError Unit)} {p : Progress σ τ} (h : Writes g files ws p)
    {event : Event} (hmem : event ∈ g.events) : event ∈ p.gate.events := by
  have hstep : ∀ {g g' : Gate σ τ} {path contents : String} {r : Except GateError Outcome},
      g.run path contents = (r, g') → event ∈ g.events → event ∈ g'.events := by
    intro g g' path contents r hrun hmem
    obtain ⟨events, hacted⟩ := Gate.run_acted hrun
    rw [hacted.grown]
    exact List.mem_append_left _ hmem
  induction h with
  | done => exact hmem
  | wrote run _ _ _ _ ih => exact ih (hstep run hmem)
  | failed run => exact hstep run hmem
  | lost run => exact hstep run hmem

/-- Files that go through the gate without a failure and without a format are written one
after the other. -/
theorem Writes.series {g : Gate σ τ} {files : List GeneratedFile}
    {ws : List (Job × Except WriteError Unit)} {p : Progress σ τ} (h : Writes g files ws p)
    (hdone : p.failure = none) (hno : Unformatted p.gate.events)
    (hstart : ∀ file ∈ files, ∃ full, g.disk.absolute file.path = .ok full) :
    ∃ jobs, List.Forall₂ (JobOf g.disk) files jobs ∧ EveryWrite Succeeds jobs g.disk ∧
      p.gate.disk = afterAll jobs g.disk ∧
      p.outcomes.map Outcome.summary = jobs.map fun job => job.path ++ ": " ++ "written" := by
  induction h with
  | done => exact ⟨[], .nil, trivial, rfl, rfl⟩
  | failed => cases hdone
  | lost => cases hdone
  | @wrote g g' file rest o path ws p run absolute told written next ih =>
    obtain ⟨hwrite, hsummary⟩ := Gate.run_written run absolute written
      fun path result hmem => hno path result (next.mem_events hmem)
    have hdisk : g'.disk = (AtomicWrite.run ⟨path, file.text⟩ g.disk).2 := by rw [hwrite]
    have hrest : ∀ other ∈ rest, ∃ full, g.disk.absolute other.path = .ok full :=
      fun other hother => hstart other (List.mem_cons_of_mem file hother)
    -- a path that can be made absolute before the write is made the same after it
    have hkept : ∀ {other full}, g.disk.absolute other = .ok full →
        g'.disk.absolute other = .ok full := by
      intro other full hfull
      rw [hdisk]
      exact absolute_run hfull _
    obtain ⟨jobs, hjobs, hwrites, hlast, hsummaries⟩ :=
      ih hdone hno fun other hother => (hrest other hother).imp fun _ => hkept
    have hjobs' : List.Forall₂ (JobOf g.disk) rest jobs := by
      refine ((List.forall₂_and_left rest jobs).mpr ⟨hrest, hjobs⟩).imp ?_
      rintro other job ⟨⟨full, hfull⟩, hpath, htext⟩
      rw [hkept hfull] at hpath
      cases hpath
      exact ⟨hfull, htext⟩
    rw [hdisk] at hwrites hlast
    refine ⟨⟨path, file.text⟩ :: jobs, .cons ⟨absolute, rfl⟩ hjobs', ⟨?_, hwrites⟩, hlast, ?_⟩
    · exact congrArg Prod.fst hwrite
    · rw [List.map_cons, List.map_cons, hsummary, hsummaries]

/-- The first file shows that the paths of all of them can be made absolute. -/
theorem Writes.absolute {g : Gate σ τ} {files : List GeneratedFile}
    {ws : List (Job × Except WriteError Unit)} {p : Progress σ τ} (h : Writes g files ws p)
    (hdone : p.failure = none) {start : Bool}
    (hstart : ∀ file ∈ files, Path.isAbsolute file.path = start) :
    ∀ file ∈ files, ∃ full, g.disk.absolute file.path = .ok full := by
  intro file hfile
  cases h with
  | done => cases hfile
  | failed => cases hdone
  | lost => cases hdone
  | wrote _ absolute =>
    refine Disk.absolute_of_sameStart absolute ?_
    rw [hstart file hfile, hstart _ List.mem_cons_self]

end Series

/-! ## Names of the files -/

theorem names_fileName : ∀ f ∈ builtinFamilies,
    (Path.ofText f.fileName).names = [f.fileName] ∧ Path.isAbsolute f.fileName = false := by
  decide

theorem eq_of_fileName : ∀ f ∈ builtinFamilies, ∀ g ∈ builtinFamilies,
    f.fileName = g.fileName → f = g := by decide

theorem isAbsolute_generated {f : Family} (hf : f ∈ builtinFamilies) (config : Config) :
    Path.isAbsolute (Generation.generated config f).path = Path.isAbsolute config.outDir :=
  Path.isAbsolute_join (names_fileName f hf).2

theorem JobOf.lastName {disk : Disk} {f : Family} {config : Config} {job : Job}
    (hf : f ∈ builtinFamilies) (h : JobOf disk (Generation.generated config f) job) :
    job.target.names.getLast? = some f.fileName := by
  obtain ⟨hnames, hrelative⟩ := names_fileName f hf
  refine Disk.getLast?_names_absolute h.1 ?_
  show (Path.ofText (Path.join config.outDir f.fileName)).names.getLast? = _
  rw [Path.names_join hrelative, hnames, List.getLast?_append]
  rfl

theorem distinct_of_chosen {names : List String} {fs : List Family} {disk : Disk}
    {config : Config} {jobs : List Job} (hfs : Chosen names fs)
    (h : List.Forall₂ (JobOf disk) (fs.map (Generation.generated config)) jobs) :
    Distinct jobs := by
  have hjobs := (List.forall₂_and_left fs jobs).mpr ⟨hfs.builtin, List.forall₂_map_left_iff.mp h⟩
  have hnames : fs.map (fun f => some f.fileName) =
      jobs.map fun job => job.target.names.getLast? :=
    map_eq_of_forall₂ (fun f job hjob => (hjob.2.lastName hjob.1).symm) hjobs
  have hnodup : (fs.map fun f => some f.fileName).Nodup :=
    hfs.nodup.map_on fun f hf g hg heq =>
      eq_of_fileName f (hfs.builtin f hf) g (hfs.builtin g hg) (Option.some.inj heq)
  rw [hnames, List.nodup_iff_pairwise_ne, List.pairwise_map] at hnodup
  exact hnodup

/-! ## What is generated -/

theorem generate_eq_named (options : Options) (config : Config) :
    generate options config = Generation.named options.requested config := by
  rw [generate, Options.requested]
  split
  · exact Generation.all_eq_named config
  · rfl

theorem chosen_of_generate {options : Options} {config : Config} {files : List GeneratedFile}
    {log : List Record} (h : (generate options config).collect = (.ok files, log)) :
    ∃ fs, Chosen options.requested fs ∧ files = fs.map (Generation.generated config) := by
  rw [generate_eq_named] at h
  obtain ⟨-, fs, hfs, hfiles⟩ := Generation.named_eq_ok_iff.mp (congrArg Prod.fst h)
  exact ⟨fs, hfs, (Generation.forall₂_fileOf_iff config hfs.translates).mp hfiles⟩

theorem generate_known {options : Options} (h : ∀ name ∈ options.families, KnownFamily name)
    (config : Config) :
    ∃ fs log, Chosen options.requested fs ∧
      (generate options config).collect = (.ok (fs.map (Generation.generated config)), log) := by
  obtain ⟨fs, hfs, hresult⟩ := Generation.named_result_of_known (options.requested_known h)
  refine ⟨fs, (generate options config).collect.2, hfs, Prod.ext ?_ rfl⟩
  rw [generate_eq_named, hresult]

/-! ## Sessions that print -/

theorem runOptions_print {options : Options} {env : Environment} {files : List GeneratedFile}
    {log : List Record}
    (h : (generate options (options.config env.projectRoot)).collect = (.ok files, log))
    (hprint : options.print = true) :
    runOptions options env =
      ⟨0, Text.joinWith "" (files.map GeneratedFile.text), log.flatMap (recordText options.level),
        env.disk, []⟩ := by
  simp only [runOptions, h, hprint, if_true]
  rfl

/-- What is printed depends on nothing around the session but the default directory. -/
theorem runOptions_print_env {options : Options} (hprint : options.print = true)
    {env env' : Environment} (hroot : env'.projectRoot = env.projectRoot) :
    runOptions options env' = { runOptions options env with disk := env'.disk } := by
  simp only [runOptions, hroot, hprint, if_true]
  cases (generate options (options.config env.projectRoot)).collect.1 <;> rfl

theorem runOptions_print_disk {options : Options} (hprint : options.print = true)
    (env : Environment) :
    (runOptions options env).disk = env.disk ∧ (runOptions options env).formatterCalls = [] := by
  simp only [runOptions, hprint, if_true]
  cases (generate options (options.config env.projectRoot)).collect.1 <;> exact ⟨rfl, rfl⟩

/-! ## Sessions that write -/

/-- The job writes to the file of the family in the directory. -/
def PlacedIn (disk : Disk) (outDir : String) (f : Family) (job : Job) : Prop :=
  disk.absolute (Path.join outDir (f.name ++ ".go")) = .ok job.path

/-- With `--yes` and `--no-format` the files of the families are written one after the
other, and none of them is disturbed by the next ones. -/
theorem passFiles_lasts {options : Options} (hyes : options.yes = true)
    (hno : options.noFormat = true) (env : Environment) {config : Config} {names : List String}
    {fs : List Family} (hfs : Chosen names fs)
    (hdone : (passFiles (env.gate options) (fs.map (Generation.generated config))).failure = none) :
    let p := passFiles (env.gate options) (fs.map (Generation.generated config))
    ∃ jobs, List.Forall₂ (JobOf env.disk) (fs.map (Generation.generated config)) jobs ∧
      EveryWrite (Lasts env.disk.tree p.gate.disk.tree) jobs env.disk ∧
      p.outcomes.map Outcome.summary = jobs.map fun job => job.path ++ ": " ++ "written" := by
  intro p
  have hwrites : Writes (env.gate options) (fs.map (Generation.generated config)) _ p :=
    (unattended env (GoFmt.mk env.formatter []) _ hyes).writes
  have hunformatted : Unformatted p.gate.events :=
    (formatless env (GoFmt.mk env.formatter []) _ hno).formatted
  have habsolute := hwrites.absolute hdone (List.forall_mem_map.mpr fun f hf =>
    isAbsolute_generated (hfs.builtin f hf) config)
  obtain ⟨jobs, hjobs, hsucceeds, hdisk, hsummaries⟩ :=
    hwrites.series hdone hunformatted habsolute
  have hlasts := everyWrite_lasts (distinct_of_chosen hfs hjobs)
    (fun _ _ hlink => hlink : NoNewLinks env.disk.tree env.disk.tree) hsucceeds
  exact ⟨jobs, hjobs, hdisk ▸ hlasts, hsummaries⟩

theorem failure_of_status {p : Progress σ τ} (h : p.status = 0) : p.failure = none := by
  rw [Progress.status] at h
  cases hfailure : p.failure with
  | none => rfl
  | some e =>
    rw [hfailure] at h
    cases h

/-! ## Both ways -/

/-- The first arguments print what the second ones write, which they do without a question
and without a format.  The other flags are free. -/
structure Counterparts (printing writing : List String) (p w : Options) : Prop where
  printed : Options.ofArguments printing = .ok p
  written : Options.ofArguments writing = .ok w
  prints : p.print = true
  writes : w.print = false
  yes : w.yes = true
  noFormat : w.noFormat = true
  families : p.families = w.families
  outDir : p.outDir = w.outDir
  package : p.package = w.package

theorem Counterparts.generate_eq {printing writing : List String} {p w : Options}
    (h : Counterparts printing writing p w) (projectRoot : String) :
    generate p (p.config projectRoot) = generate w (w.config projectRoot) := by
  rw [generate, generate, Options.config, Options.config, h.families, h.outDir, h.package]

/-- A session that prints depends on nothing around it, asks nothing, runs nothing and
changes nothing.  What it prints are the texts that its counterpart leaves in the files,
in the same order. -/
theorem printed_is_written {printing writing : List String} {p w : Options}
    (h : Counterparts printing writing p w) (env : Environment) :
    (∀ env' : Environment, env'.projectRoot = env.projectRoot →
      run printing env' = { run printing env with disk := env'.disk }) ∧
    (run printing env).disk = env.disk ∧ (run printing env).formatterCalls = [] ∧
    ((∀ name ∈ p.families, KnownFamily name) → (run printing env).status = 0 ∧
      ∃ log : List Record, (run printing env).stderr = log.flatMap (recordText p.level)) ∧
    ((run writing env).status = 0 → ∃ fs jobs, Chosen w.requested fs ∧
      List.Forall₂ (PlacedIn env.disk (w.config env.projectRoot).outDir) fs jobs ∧
      (run writing env).stdout =
        unlines (jobs.map (fun job => job.path ++ ": " ++ "written") ++ [doneLine]) ∧
      EveryWrite (Lasts env.disk.tree (run writing env).disk.tree) jobs env.disk ∧
      (run printing env).status = 0 ∧
      (run printing env).stdout = Text.joinWith "" (jobs.map Job.contents)) := by
  simp only [run_of_options h.printed, run_of_options h.written]
  obtain ⟨hdisk, hcalls⟩ := runOptions_print_disk h.prints env
  refine ⟨fun env' hroot => runOptions_print_env h.prints hroot, hdisk, hcalls, ?_, ?_⟩
  · intro hknown
    obtain ⟨fs, log, -, hgenerated⟩ := generate_known hknown (p.config env.projectRoot)
    rw [runOptions_print hgenerated h.prints]
    exact ⟨rfl, log, rfl⟩
  · intro hstatus
    rcases hgenerated : (generate w (w.config env.projectRoot)).collect with ⟨e | files, log⟩
    · rw [runOptions_error hgenerated] at hstatus
      cases hstatus
    · obtain ⟨fs, hfs, rfl⟩ := chosen_of_generate hgenerated
      rw [runOptions_files hgenerated h.writes] at hstatus ⊢
      have hdone := failure_of_status hstatus
      obtain ⟨jobs, hjobs, hlasts, hsummaries⟩ := passFiles_lasts h.yes h.noFormat env hfs hdone
      have hplaced : List.Forall₂ (PlacedIn env.disk (w.config env.projectRoot).outDir) fs jobs :=
        (List.forall₂_map_left_iff.mp hjobs).imp fun _ _ hjob => hjob.1
      have htexts := map_eq_of_forall₂ (fun _ _ hjob => hjob.2.symm) hjobs
      rw [← h.generate_eq] at hgenerated
      rw [runOptions_print hgenerated h.prints]
      refine ⟨fs, jobs, hfs, hplaced, ?_, hlasts, rfl, congrArg (Text.joinWith "") htexts⟩
      show Progress.stdout _ = _
      rw [Progress.stdout, hdone, hsummaries]
      rfl

/-- A directory in which the two outputs are one file already. -/
def sharedFile : Environment where
  stdin := []
  disk := Disk.sound ⟨[(["work"], .directory), (["work", "expr.go"], .file 0 ⟨0o600, []⟩),
    (["work", "stmt.go"], .file 0 ⟨0o600, []⟩)], ["work"], []⟩
  formatter := .missing
  projectRoot := "/work"

theorem printed_is_written_sharedFile :
    let printing := ["--print", "-qy", "--out-dir", "."]
    let writing := ["--yes", "--no-format", "--out-dir", "."]
    (∃ p w, Counterparts printing writing p w) ∧ (run writing sharedFile).status = 0 ∧
      ∃ jobs : List Job, (run writing sharedFile).stdout =
          unlines (jobs.map (fun job => job.path ++ ": " ++ "written") ++ [doneLine]) ∧
        EveryWrite (Lasts sharedFile.disk.tree (run writing sharedFile).disk.tree) jobs
          sharedFile.disk ∧
        (run printing sharedFile).stdout = Text.joinWith "" (jobs.map Job.contents) := by
  intro printing writing
  have hcounterparts : Counterparts printing writing
      { Options.default with outDir := some ".", yes := true, print := true, quiet := true }
      { Options.default with outDir := some ".", yes := true, noFormat := true } :=
    ⟨by decide, by decide, rfl, rfl, rfl, rfl, rfl, rfl, rfl⟩
  have hstatus : (run writing sharedFile).status = 0 := by decide +kernel
  obtain ⟨-, -, -, -, hsame⟩ := printed_is_written hcounterparts sharedFile
  obtain ⟨fs, jobs, -, -, hstdout, hlasts, -, hprinted⟩ := hsame hstatus
  exact ⟨⟨_, _, hcounterparts⟩, hstatus, jobs, hstdout, hlasts, hprinted⟩

/-- The path leads to a file with these bytes. -/
def Reads (t : FileTree) (path : String) (bytes : Text.Bytes) : Prop :=
  ∃ place number mode, t.resolve (Path.ofText path) = .ok (.other place) ∧
    t.get? place = some (.file number ⟨mode, bytes⟩)

/-- A directory with a link to itself that is named like an output. -/
def ownLink : Environment :=
  { sharedFile with
    disk := Disk.sound ⟨[(["work"], .directory), (["work", "ast"], .directory),
      (["work", "ast", "expr.go"], .link ".")], ["work"], []⟩ }

/-- The file takes the place of the link that its own path goes through, and cannot be read
by that path any more. -/
theorem printed_unread_behind_link :
    ¬ ∀ (printing writing : List String) (p w : Options) (env : Environment),
      Counterparts printing writing p w → (run writing env).status = 0 →
      ∃ fs contents, Chosen w.requested fs ∧
        List.Forall₂ (fun f bytes => Reads (run writing env).disk.tree
          (Path.join (w.config env.projectRoot).outDir (f.name ++ ".go")) bytes) fs contents ∧
        Text.encode (run printing env).stdout = contents.flatten := by
  intro h
  have hcounterparts : Counterparts ["--print", "--family", "expr", "--out-dir", "ast/expr.go"]
      ["--yes", "--no-format", "--family", "expr", "--out-dir", "ast/expr.go"]
      { Options.default with families := ["expr"], outDir := some "ast/expr.go", print := true }
      { Options.default with
        families := ["expr"], outDir := some "ast/expr.go", yes := true, noFormat := true } :=
    ⟨by decide, by decide, rfl, rfl, rfl, rfl, rfl, rfl, rfl⟩
  have hstatus : (run ["--yes", "--no-format", "--family", "expr", "--out-dir", "ast/expr.go"]
      ownLink).status = 0 := by decide +kernel
  have hblocked : (run ["--yes", "--no-format", "--family", "expr", "--out-dir", "ast/expr.go"]
      ownLink).disk.tree.resolve (Path.ofText "ast/expr.go/expr.go") =
        .error (.system .notDirectory) := by decide +kernel
  obtain ⟨fs, contents, hfs, hreads, -⟩ := h _ _ _ _ ownLink hcounterparts hstatus
  have hchosen : Chosen ["expr"] [exprFamily] :=
    chosen_distinctFamilies (.cons ⟨by decide, by decide⟩ .nil)
  obtain rfl := hfs.unique hchosen
  cases hreads with
  | cons hread _ =>
    obtain ⟨place, -, -, hresolve, -⟩ := hread
    cases hblocked.symm.trans hresolve

end Session
end NodeGen
