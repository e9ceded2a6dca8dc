/-
The states of the output gate.

    idle -> awaitingWrite -> written -> awaitingFormat -> formatted
                 |       |                   |        |
                 |       +-> writeFailed     |        +-> formatFailed
                 +-> aborted                 +-> aborted
-/
import NodeGen.Confirmation.Basic
import NodeGen.Files.AtomicWrite
import NodeGen.Formatter.Basic

namespace NodeGen

inductive GateState where
  | idle
  | awaitingWrite
  | written
  | awaitingFormat
  | formatted
  /-- The file was written, but the formatter failed. -/
  | formatFailed
  /-- The previous file is still in place. -/
  | writeFailed
  | aborted
  deriving DecidableEq, Repr

namespace GateState

def name : GateState → String
  | idle => "Idle"
  | awaitingWrite => "AwaitingWriteConfirmation"
  | written => "Written"
  | awaitingFormat => "AwaitingFormatConfirmation"
  | formatted => "Formatted"
  | formatFailed => "FormatFailed"
  | writeFailed => "WriteFailed"
  | aborted => "Aborted"

/-- The moves of the diagram. -/
inductive Move : GateState → GateState → Prop where
  | ask : Move idle awaitingWrite
  | write : Move awaitingWrite written
  | declineWrite : Move awaitingWrite aborted
  | failWrite : Move awaitingWrite writeFailed
  | askFormat : Move written awaitingFormat
  | format : Move awaitingFormat formatted
  | declineFormat : Move awaitingFormat aborted
  | failFormat : Move awaitingFormat formatFailed

/-- Where a file's way through the gate can end. -/
def terminal (s : GateState) : Prop := ∀ s', ¬ Move s s'

end GateState

/-! ## Results -/

inductive GateError where
  /-- The operator's answer could not be read. -/
  | confirm (e : IoError)
  /-- The file could not be written. -/
  | write (e : AtomicWrite.WriteError)
  deriving DecidableEq, Repr

def GateError.message : GateError → String
  | confirm e => "failed to read confirmation: " ++ e.message
  | write e => e.message

structure Outcome where
  path : String
  /-- Where the gate stopped.  Aborted after a write means that the file was
  written and not formatted. -/
  state : GateState
  /-- Every state passed through, the last one included. -/
  trail : List GateState
  written : Bool
  /-- Why the formatter failed, which does not fail the run. -/
  formatError : Option FormatError
  deriving DecidableEq, Repr

/-- What happens during a run, in order. -/
inductive Event where
  | record (r : Record)
  /-- A question to the operator. -/
  | asked (step : Step) (prompt : String) (reply : Reply)
  | wrote (job : AtomicWrite.Job) (result : Except AtomicWrite.WriteError Unit)
  /-- A run of the formatter over a path. -/
  | formatted (path : String) (result : Except FormatError Unit)

namespace Event

def record? : Event → Option Record
  | record r => some r
  | _ => none

/-- What the event puts on the operator's terminal, besides records. -/
def shown : Event → Text.Bytes
  | asked _ _ reply => reply.shown
  | _ => []

end Event

end NodeGen
