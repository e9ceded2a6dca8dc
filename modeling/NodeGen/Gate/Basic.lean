/-
The output gate.

Files may carry manual edits, so nothing is written and nothing is formatted
before the operator agrees.  A run takes one file through the gate: it asks,
writes the file atomically, asks again, and formats it.  Declining is not an
error.  A failed formatter is part of the outcome, and a failed question or a
failed write ends the run.
-/
import NodeGen.Gate.State

namespace NodeGen

/-- A gate with its confirmer, its formatter, and the disk that it guards. -/
structure Gate (σ τ : Type) where
  confirmer : σ
  formatter : τ
  disk : Disk
  state : GateState
  events : List Event

/-- A run of the gate over one file. -/
structure Passage (σ τ : Type) where
  gate : Gate σ τ
  outcome : Outcome

/-- The result of a run and the gate after it. -/
abbrev Gate.Result (σ τ : Type) := Except GateError Outcome × Gate σ τ

namespace Gate

variable {σ τ : Type}

def new (confirmer : σ) (formatter : τ) (disk : Disk) : Gate σ τ :=
  ⟨confirmer, formatter, disk, .idle, []⟩

def add (g : Gate σ τ) (events : List Event) : Gate σ τ := { g with events := g.events ++ events }

def writePrompt (path : String) : String :=
  "The generator will overwrite \"" ++ path ++ "\". Continue?"

def formatPrompt (command : String) : String := "Run '" ++ command ++ "'?"

end Gate

namespace Passage

variable {σ τ : Type}

/-- Starts a run, whatever became of the one before it. -/
def start (g : Gate σ τ) (path : String) : Passage σ τ :=
  ⟨{ g with state := .idle }, ⟨path, .idle, [.idle], false, none⟩⟩

def path (p : Passage σ τ) : String := p.outcome.path

def note (p : Passage σ τ) (level : Level) (message : String) : Passage σ τ :=
  { p with gate := p.gate.add [.record ⟨level, .gate, message⟩] }

def moveRecord (path : String) (source target : GateState) : Record :=
  ⟨.trace, .gate, path ++ ": " ++ source.name ++ " -> " ++ target.name⟩

/-- Moves on to a state. -/
def enter (p : Passage σ τ) (s : GateState) : Passage σ τ where
  gate := { p.gate.add [.record (moveRecord p.path p.gate.state s)] with state := s }
  outcome := { p.outcome with state := s, trail := p.outcome.trail ++ [s] }

/-- Keeps why the formatter failed. -/
def fail (p : Passage σ τ) (e : FormatError) : Passage σ τ :=
  { p with outcome := { p.outcome with formatError := some e } }

def finish (p : Passage σ τ) : Gate.Result σ τ := (.ok p.outcome, p.gate)

def stop (p : Passage σ τ) (e : GateError) : Gate.Result σ τ := (.error e, p.gate)

/-! ## Actions -/

/-- What the operator is asked before the file is written. -/
def writeQuestion (p : Passage σ τ) : String := Gate.writePrompt p.path

/-- What the operator is asked before the formatter runs. -/
def formatQuestion [Formatter τ] (p : Passage σ τ) : String :=
  Gate.formatPrompt (Formatter.command p.gate.formatter p.path)

/-- Asks the operator. -/
def ask [Confirmer σ] (p : Passage σ τ) (step : Step) (prompt : String) :
    Except IoError Bool × Passage σ τ :=
  let (reply, confirmer) := Confirmer.confirm p.gate.confirmer step prompt
  (reply.answer,
    { p with gate := { p.gate.add [.asked step prompt reply] with confirmer := confirmer } })

/-- Writes the file. -/
def store (p : Passage σ τ) (contents : String) :
    Except AtomicWrite.WriteError Unit × Passage σ τ :=
  let job : AtomicWrite.Job := ⟨p.path, contents⟩
  let (result, disk) := AtomicWrite.run job p.gate.disk
  let events := .wrote job result :: (AtomicWrite.records job result).map .record
  (result, { p with gate := { p.gate.add events with disk := disk } })

/-- Runs the formatter over the file. -/
def reformat [Formatter τ] (p : Passage σ τ) : Except FormatError Unit × Passage σ τ :=
  let (result, formatter, disk) := Formatter.format p.gate.formatter p.path p.gate.disk
  (result,
    { p with
      gate := { p.gate.add [.formatted p.path result] with formatter := formatter, disk := disk } })

/-! ## The stages of a run, last to first -/

def format [Formatter τ] (p : Passage σ τ) : Gate.Result σ τ :=
  match p.reformat with
  | (.ok _, p) => ((p.note .info ("formatted " ++ p.path)).enter .formatted).finish
  | (.error e, p) => (((p.note .warn e.text).fail e).enter .formatFailed).finish

def askFormat [Confirmer σ] [Formatter τ] (p : Passage σ τ) : Gate.Result σ τ :=
  let p := p.enter .awaitingFormat
  match p.ask .format p.formatQuestion with
  | (.error e, p) => p.stop (.confirm e)
  | (.ok false, p) => ((p.note .info ("left " ++ p.path ++ " unformatted")).enter .aborted).finish
  | (.ok true, p) => p.format

def write [Confirmer σ] [Formatter τ] (p : Passage σ τ) (contents : String) : Gate.Result σ τ :=
  match p.store contents with
  | (.error e, p) => (p.enter .writeFailed).stop (.write e)
  | (.ok _, p) =>
    let p := { p with outcome := { p.outcome with written := true } }
    ((p.enter .written).note .info ("wrote " ++ p.path)).askFormat

def askWrite [Confirmer σ] [Formatter τ] (p : Passage σ τ) (contents : String) :
    Gate.Result σ τ :=
  let p := p.enter .awaitingWrite
  match p.ask .write p.writeQuestion with
  | (.error e, p) => p.stop (.confirm e)
  | (.ok false, p) => ((p.note .info ("skipped writing " ++ p.path)).enter .aborted).finish
  | (.ok true, p) => p.write contents

end Passage

namespace Gate

variable {σ τ : Type} [Confirmer σ] [Formatter τ]

/-- Takes one file through the gate.  The path is made absolute first. -/
def run (g : Gate σ τ) (path contents : String) : Result σ τ :=
  match g.disk.absolute path with
  | .error e => (.error (.write ⟨path, e⟩), g)
  | .ok full => (Passage.start g full).askWrite contents

/-- The runs over some files, whatever becomes of each of them. -/
def runAll (g : Gate σ τ) : List (String × String) → List (Except GateError Outcome) × Gate σ τ
  | [] => ([], g)
  | (path, contents) :: rest =>
    let (result, g) := g.run path contents
    let (results, g) := g.runAll rest
    (result :: results, g)

def records (g : Gate σ τ) : List Record := g.events.filterMap Event.record?

end Gate
end NodeGen
