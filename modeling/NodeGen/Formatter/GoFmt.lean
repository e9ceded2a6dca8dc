/-
The Go formatter.

`gofmt -w PATH` runs as a program of its own.  The program is described by what
it does when it is run: what it prints, what it adds to its file, and how it
ends.  It may also be missing or not executable.
-/
import NodeGen.Formatter.Basic
import NodeGen.Text.Blank
import NodeGen.Text.Quoted

namespace NodeGen

/-- How a program ends. -/
inductive Ending where
  | exit (status : Nat)
  | signal (number : Nat)
  deriving DecidableEq, Repr

/-- What an installed program does. -/
structure Behaviour where
  stderr : Text.Bytes
  /-- What it adds to the file it is given. -/
  appended : Text.Bytes
  ending : Ending
  deriving DecidableEq, Repr

inductive Program where
  | missing
  | notExecutable
  | installed (behaviour : Behaviour)
  deriving DecidableEq, Repr

structure GoFmt where
  program : Program
  /-- The argument lists of the runs so far. -/
  calls : List (List String)
  deriving DecidableEq, Repr

/-- The names of the signals, by number. -/
def signalNames : List (Nat × String) := [
  (1, "SIGHUP"), (2, "SIGINT"), (3, "SIGQUIT"), (4, "SIGILL"), (5, "SIGTRAP"), (6, "SIGABRT"),
  (7, "SIGBUS"), (8, "SIGFPE"), (9, "SIGKILL"), (10, "SIGUSR1"), (11, "SIGSEGV"),
  (12, "SIGUSR2"), (13, "SIGPIPE"), (14, "SIGALRM"), (15, "SIGTERM"), (16, "SIGSTKFLT"),
  (17, "SIGCHLD"), (18, "SIGCONT"), (19, "SIGSTOP"), (20, "SIGTSTP"), (21, "SIGTTIN"),
  (22, "SIGTTOU"), (23, "SIGURG"), (24, "SIGXCPU"), (25, "SIGXFSZ"), (26, "SIGVTALRM"),
  (27, "SIGPROF"), (28, "SIGWINCH"), (29, "SIGIO"), (30, "SIGPWR"), (31, "SIGSYS")
  ]

def Ending.text : Ending → String
  | exit status => "exit status: " ++ toString status
  | signal number =>
    "signal: " ++ toString number ++
      match signalNames.lookup number with
      | some name => " (" ++ name ++ ")"
      | none => ""

namespace GoFmt

/-- The command line as the operator sees it. -/
def command (path : String) : String := "gofmt -w \"" ++ path ++ "\""

def arguments (path : String) : List String := ["-w", path]

/-- The command line in a report, which quotes only a path with ASCII blanks. -/
def plainCommand (path : String) : String :=
  "gofmt -w " ++ if path.toList.any Text.isAsciiBlank then Text.quoted path else path

/-- Why the program could not be started. -/
inductive StartError where
  | noDirectory (e : IoError)
  | notFound
  | refused (e : IoError)
  deriving DecidableEq, Repr

def StartError.message (path : String) : StartError → String
  | noDirectory e => "failed to get current directory: " ++ e.message
  | notFound => "command not found: `gofmt`"
  | refused e => "io error when running command `" ++ plainCommand path ++ "`: " ++ e.message

/-- The longest argument that a program can be given. -/
def maxArgument : Nat := 131071

/-- The behaviour of the program, if it can be started on the path. -/
def start (program : Program) (path : String) (disk : Disk) : Except StartError Behaviour :=
  match disk.tree.currentDirectory with
  | .error e => .error (.noDirectory e)
  | .ok _ =>
    if path.toList.any (· == '\x00') then .error (.refused .nulInArgument)
    else
      match program with
      | .missing => .error .notFound
      | .notExecutable => .error (.refused (.system .permissionDenied))
      | .installed behaviour =>
        if Text.byteSize path > maxArgument then .error (.refused (.system .argumentTooLong))
        else .ok behaviour

/-- What the program leaves on the disk. -/
def effect (behaviour : Behaviour) (path : String) (disk : Disk) : Disk :=
  if behaviour.appended = [] then disk
  else { disk with tree := disk.tree.append (Path.ofText path) behaviour.appended }

def outcome (behaviour : Behaviour) (path : String) : Except FormatError Unit :=
  if behaviour.ending = .exit 0 then .ok ()
  else
    .error ⟨command path,
      behaviour.ending.text ++ ": " ++ Text.trim (Text.decodeLossy behaviour.stderr)⟩

def format (g : GoFmt) (path : String) (disk : Disk) : Except FormatError Unit × GoFmt × Disk :=
  match start g.program path disk with
  | .error e => (.error ⟨command path, e.message path⟩, g, disk)
  | .ok behaviour =>
    (outcome behaviour path, { g with calls := g.calls ++ [arguments path] },
      effect behaviour path disk)

instance : Formatter GoFmt where
  command _ path := command path
  format := format

end GoFmt
end NodeGen
