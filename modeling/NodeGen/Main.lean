/-
The command line program.

A session is a value computed from its arguments and its surroundings.  The
program reads the part of the file system that a session can touch, runs the
session on it, and writes back what changed.

The operator sees each question before the answer is read.  The input known so
far decides what is shown up to the next question, so the program compares two
runs, one at the end of that input and one with an empty line after it.  Where
they part, an answer is missing.

The formatter is a program of its own, which this front end does not start.
-/
import NodeGen.CommandLine.Session

namespace NodeGen
namespace Program

open Session

/-! ## Surroundings -/

/-- Adds what is at the path to the tree. -/
def load (tree : FileTree) (path : String) : IO FileTree := do
  let file := (← IO.currentDir) / path
  if ← file.isDir then
    return tree.place (Path.ofText path) .directory
  if ← file.pathExists then
    let contents ← IO.FS.readBinFile file
    return tree.place (Path.ofText path) (.file tree.freshNumber ⟨Mode.newFile, contents.toList⟩)
  return tree

/-- Adds a path and the directories on the way to it. -/
def loadAlong (tree : FileTree) (path : String) : IO FileTree := do
  let names := (Path.ofText path).names
  (List.range (names.length + 1)).foldlM
    (fun tree n => load tree (FileTree.Place.render (names.take n))) tree

/-- The surroundings of a session with these arguments, before any input. -/
def surroundings (arguments : List String) : IO Environment := do
  let here := (← IO.currentDir).toString
  let tree ← loadAlong ⟨[], (Path.ofText here).names, []⟩ here
  let tree ← match Options.ofArguments arguments with
    | .error _ => pure tree
    | .ok options =>
      let outDir := Path.join here (options.config here).outDir
      builtinFamilies.foldlM (fun tree f => loadAlong tree (Path.join outDir f.fileName)) tree
  return ⟨[], Disk.sound tree, .missing, here⟩

/-- Brings the file system from one tree to another. -/
def store (old new : FileTree) : IO Unit := do
  let changed := new.entries.filter fun e => old.get? e.1 ≠ some e.2
  for (place, entry) in changed do
    if entry = .directory then IO.FS.createDirAll (FileTree.Place.render place)
  for (place, entry) in changed do
    match entry with
    | .file _ file =>
      IO.FS.writeBinFile (FileTree.Place.render place) (ByteArray.mk file.contents.toArray)
    | _ => pure ()

/-! ## Questions and answers -/

def commonStart : Text.Bytes → Text.Bytes → Text.Bytes
  | a :: as, b :: bs => if a = b then a :: commonStart as bs else []
  | _, _ => []

/-- Shows what comes after the first `shown` bytes. -/
def display (text : Text.Bytes) (shown : Nat) : IO Unit := do
  let stderr ← IO.getStderr
  stderr.write (ByteArray.mk (text.drop shown).toArray)
  stderr.flush

/-- Runs the session, reading a line whenever an answer is missing. -/
partial def converse (arguments : List String) (env : Environment) (shown : Nat) : IO Report := do
  let ended := Session.run arguments env
  let asked := Session.run arguments { env with stdin := env.stdin ++ Console.lineFeed }
  if ended.stderr = asked.stderr then
    display ended.stderr shown
    return ended
  let known := commonStart ended.stderr asked.stderr
  display known shown
  let line ← (← IO.getStdin).getLine
  if line.isEmpty then
    display ended.stderr known.length
    return ended
  converse arguments { env with stdin := env.stdin ++ Text.encode line } known.length

end Program
end NodeGen

open NodeGen in
def main (arguments : List String) : IO UInt32 := do
  let env ← Program.surroundings arguments
  let report ← Program.converse arguments env 0
  Program.store env.disk.tree report.disk.tree
  IO.print report.stdout
  return UInt32.ofNat report.status
