/-
Sessions.

A session is one run of the command line: it reads the arguments, generates
every requested family, and then either prints the texts or takes the files
through the output gate in order.  The first file that fails ends it.
-/
import NodeGen.CommandLine.Arguments
import NodeGen.CommandLine.Help
import NodeGen.Formatter.GoFmt
import NodeGen.Gate.Basic

namespace NodeGen

/-- What became of a file, for the operator. -/
def Outcome.summary (o : Outcome) : String :=
  o.path ++ ": " ++
    match o.state, o.written with
    | .formatted, _ => "written and formatted"
    | .formatFailed, _ => "written, formatting failed"
    | _, true => "written"
    | _, false => "skipped"

namespace Session

/-- What a session finds around it. -/
structure Environment where
  stdin : Text.Bytes
  disk : Disk
  formatter : Program
  /-- The directory that the default output directory is in. -/
  projectRoot : String

structure Report where
  status : Nat
  stdout : String
  stderr : Text.Bytes
  disk : Disk
  /-- The runs of the formatter. -/
  formatterCalls : List (List String)

/-! ## Output -/

def recordText (level : Level) (r : Record) : Text.Bytes :=
  if r.visible (some level) then Text.encode (r.line ++ "\n") else []

def eventText (level : Level) : Event → Text.Bytes
  | .record r => recordText level r
  | event => event.shown

def errorText (message : String) : Text.Bytes := Text.encode ("error: " ++ message ++ "\n")

def unlines (lines : List String) : String := lines.foldr (fun line rest => line ++ "\n" ++ rest) ""

def doneLine : String := "Done!"

/-! ## Files -/

/-- The files that went through the gate before one failed. -/
structure Progress (σ τ : Type) where
  outcomes : List Outcome
  failure : Option GateError
  gate : Gate σ τ

/-- Takes the files through the gate until one fails. -/
def passFiles {σ τ : Type} [Confirmer σ] [Formatter τ] (g : Gate σ τ) :
    List GeneratedFile → Progress σ τ
  | [] => ⟨[], none, g⟩
  | file :: rest =>
    match g.run file.path file.text with
    | (.error e, g) => ⟨[], some e, g⟩
    | (.ok outcome, g) =>
      let p := passFiles g rest
      { p with outcomes := outcome :: p.outcomes }

namespace Progress

variable {σ τ : Type}

def status (p : Progress σ τ) : Nat := if p.failure.isSome then 1 else 0

def stdout (p : Progress σ τ) : String :=
  unlines (p.outcomes.map Outcome.summary ++ if p.failure.isSome then [] else [doneLine])

def stderr (p : Progress σ τ) (level : Level) : Text.Bytes :=
  p.gate.events.flatMap (eventText level) ++
    match p.failure with
    | some e => errorText e.message
    | none => []

end Progress

/-! ## Runs -/

/-- A session that ends before it reaches the gate. -/
def Environment.leave (env : Environment) (status : Nat) (stdout : String) (stderr : Text.Bytes) :
    Report :=
  ⟨status, stdout, stderr, env.disk, []⟩

def Environment.console (env : Environment) : Strategy := .console (Console.ofInput env.stdin)

/-- The gate that a session opens. -/
def Environment.gate (env : Environment) (options : Options) : Gate Strategy GoFmt :=
  Gate.new (options.confirmFlags.strategy (m := Id) env.console) ⟨env.formatter, []⟩ env.disk

def generate (options : Options) (config : Config) : Generation (List GeneratedFile) :=
  if options.families = [] then Generation.all config
  else Generation.named options.families config

def runOptions (options : Options) (env : Environment) : Report :=
  let (result, log) := (generate options (options.config env.projectRoot)).collect
  let logged := log.flatMap (recordText options.level)
  match result with
  | .error e => env.leave 1 "" (logged ++ errorText e.message)
  | .ok files =>
    if options.print then env.leave 0 (Text.joinWith "" (files.map GeneratedFile.text)) logged
    else
      let p := passFiles (env.gate options) files
      ⟨p.status, p.stdout, logged ++ p.stderr options.level, p.gate.disk, p.gate.formatter.calls⟩

def run (arguments : List String) (env : Environment) : Report :=
  match Options.ofArguments arguments with
  | .error .help => env.leave 0 Help.text []
  | .error .version => env.leave 0 Help.versionText []
  | .error e => env.leave 2 "" (Text.encode (((e.message? .stream).getD "") ++ "\n"))
  | .ok options => runOptions options env

end Session
end NodeGen
