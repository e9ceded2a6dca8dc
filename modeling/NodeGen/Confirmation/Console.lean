/-
The console.

A question is written to a sink and flushed, and the next line of the input
answers it.  Only `y` and `yes` confirm, in any case and between blanks.
Everything else declines, the end of the input included.
-/
import NodeGen.Confirmation.Basic
import NodeGen.Text.Blank
import NodeGen.Text.Letters

namespace NodeGen

/-! ## Output -/

/-- Where questions are written to. -/
structure Sink where
  written : Text.Bytes
  /-- How many more bytes the sink takes, if there is a limit. -/
  room : Option Nat
  /-- How many flushes from now one fails, counted from zero. -/
  failingFlush : Option Nat
  deriving DecidableEq, Repr

namespace Sink

/-- A sink that takes everything. -/
def unlimited : Sink := ⟨[], none, none⟩

/-- The part of the bytes that the sink takes. -/
def accepted (s : Sink) (bytes : Text.Bytes) : Text.Bytes :=
  match s.room with
  | none => bytes
  | some n => bytes.take n

/-- Takes what fits, and fails if that is not everything. -/
def put (s : Sink) (bytes : Text.Bytes) : Except IoError Unit × Sink :=
  let taken := s.accepted bytes
  (if taken.length = bytes.length then .ok () else .error .sinkFull,
    { s with
      written := s.written ++ taken
      room := s.room.map (· - taken.length) })

def flush (s : Sink) : Except IoError Unit × Sink :=
  match s.failingFlush with
  | none => (.ok (), s)
  | some 0 => (.error .flushFailed, { s with failingFlush := none })
  | some (n + 1) => (.ok (), { s with failingFlush := some n })

end Sink

/-! ## Input -/

/-- The first line with its line feed, and the bytes after it. -/
def takeLine : Text.Bytes → Text.Bytes × Text.Bytes
  | [] => ([], [])
  | b :: rest =>
    if b = 10 then ([b], rest)
    else (b :: (takeLine rest).1, (takeLine rest).2)

def isYes (line : String) : Bool :=
  let answer := Text.lowerAscii (Text.trim line)
  answer = "y" || answer = "yes"

/-- What a line of input says. -/
def readAnswer (line : Text.Bytes) : Except IoError Bool :=
  match Text.decode? line with
  | none => .error .invalidText
  | some s => .ok (isYes s)

/-! ## Questions -/

structure Console where
  input : Text.Bytes
  output : Sink
  deriving DecidableEq, Repr

namespace Console

/-- A console that reads `input` and can show everything. -/
def ofInput (input : Text.Bytes) : Console := ⟨input, Sink.unlimited⟩

def question (prompt : String) : Text.Bytes := Text.encode (prompt ++ " [y/N]: ")

def lineFeed : Text.Bytes := [10]

/-- Answers a question that has been shown. -/
def answer (c : Console) : Except IoError Bool × Console :=
  match c.input with
  | [] =>
    match c.output.put lineFeed with
    | (.ok _, output) => (.ok false, { c with output := output })
    | (.error e, output) => (.error e, { c with output := output })
  | input => (readAnswer (takeLine input).1, { c with input := (takeLine input).2 })

/-- No input is consumed for a question that could not be shown. -/
def ask (c : Console) (prompt : String) : Except IoError Bool × Console :=
  match c.output.put (question prompt) with
  | (.error e, output) => (.error e, { c with output := output })
  | (.ok _, output) =>
    match output.flush with
    | (.error e, output) => (.error e, { c with output := output })
    | (.ok _, output) => { c with output := output }.answer

/-- What is on the sink of the second console beyond that of the first. -/
def shownSince (before after : Console) : Text.Bytes :=
  after.output.written.drop before.output.written.length

end Console

instance : Confirmer Console where
  confirm c _ prompt :=
    let (answer, next) := c.ask prompt
    (⟨answer, c.shownSince next⟩, next)

end NodeGen
