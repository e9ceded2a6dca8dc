/-
Disks.

A disk is a file tree with the faults its medium has in store, one for each
call to come.  A call that meets a fault fails with it and has no effect, except
that a write may get part of the way.  The names of temporary files are drawn at
random, so a disk also has the labels in store that will be drawn for them.
-/
import NodeGen.Files.Calls

namespace NodeGen

structure Fault where
  error : IoError
  /-- How many bytes a failing write gets through. -/
  written : Nat
  deriving DecidableEq, Repr

structure Disk where
  tree : FileTree
  /-- What happens to the next calls, in order.  Later ones meet no fault. -/
  faults : List (Option Fault)
  /-- The labels of the next temporary files, in order. -/
  labels : List String
  deriving DecidableEq, Repr

namespace Disk

def sound (t : FileTree) : Disk := ⟨t, [], []⟩

/-- The fault of the next call. -/
def fault? (d : Disk) : Option Fault := d.faults.head?.join

/-- The disk after one call that left `t`. -/
def after (d : Disk) (t : FileTree) : Disk := { d with tree := t, faults := d.faults.tail }

/-- Runs a call that changes nothing when it fails. -/
def call {α : Type} (d : Disk) (act : FileTree → Except IoError (α × FileTree)) :
    Except IoError α × Disk :=
  match d.fault? with
  | some fault => (.error fault.error, d.after d.tree)
  | none =>
    match act d.tree with
    | .error e => (.error e, d.after d.tree)
    | .ok (a, t) => (.ok a, d.after t)

def makeDirectory (d : Disk) (p : Path) : Except IoError Unit × Disk :=
  d.call fun t => (t.makeDirectory p).map ((), ·)

/-- Makes the root, which is always there.  Nothing is above it that could be
missing. -/
def makeRoot (d : Disk) : Except IoError Unit × Disk :=
  match d.makeDirectory (Path.ofParts true []) with
  | (.ok _, d) => (.ok (), d)
  | (.error e, d) =>
    (if e = .system .notFound then .error (.other "failed to create whole tree") else .ok (), d)

/-- Makes a directory and those above it, given as its parts from last to
first.  Directories that exist are kept. -/
def makeDirectories (absolute : Bool) : List Path.Part → Disk → Except IoError Unit × Disk
  | [], d => if absolute then d.makeRoot else (.ok (), d)
  | part :: above, d =>
    let path := Path.ofParts absolute (part :: above).reverse
    match d.makeDirectory path with
    | (.ok _, d) => (.ok (), d)
    | (.error e, d) =>
      if e = .system .notFound then
        match makeDirectories absolute above d with
        | (.error e, d) => (.error e, d)
        | (.ok _, d) =>
          match d.makeDirectory path with
          | (.ok _, d) => (.ok (), d)
          | (.error e, d) => if d.tree.isDirectory path then (.ok (), d) else (.error e, d)
      else if d.tree.isDirectory path then (.ok (), d)
      else (.error e, d)

def ensureDirectory (d : Disk) (p : Path) : Except IoError Unit × Disk :=
  makeDirectories p.absolute p.parts.reverse d

def mode (d : Disk) (p : Path) : Except IoError Mode × Disk :=
  d.call fun t => (t.mode p).map (·, t)

def openTemporary (d : Disk) (dir : Path) : Except IoError Place × Disk :=
  { d with labels := d.labels.tail }.call fun t => t.openTemporary dir d.labels.head?

def setContents (bytes : Text.Bytes) (file : File) : File := { file with contents := bytes }

/-- Writes the whole contents of the file at a place, or a part of them. -/
def writeAll (d : Disk) (place : Place) (bytes : Text.Bytes) : Except IoError Unit × Disk :=
  match d.fault? with
  | some fault =>
    (.error fault.error,
      d.after (d.tree.editFile place (setContents (bytes.take fault.written))))
  | none => (.ok (), d.after (d.tree.editFile place (setContents bytes)))

def setMode (d : Disk) (place : Place) (mode : Mode) : Except IoError Unit × Disk :=
  d.call fun t => .ok ((), t.editFile place fun file => { file with mode := mode })

/-- Waits until the file is on the medium. -/
def sync (d : Disk) : Except IoError Unit × Disk :=
  d.call fun t => .ok ((), t)

def rename (d : Disk) (source : Place) (target : Path) : Except IoError Unit × Disk :=
  d.call fun t => (t.rename source target).map ((), ·)

def remove (d : Disk) (place : Place) : Disk := { d with tree := d.tree.remove place }

/-- A path text from the root. -/
def absolute (d : Disk) (path : String) : Except IoError String :=
  if Path.isAbsolute path then .ok path
  else d.tree.currentDirectory.map (Path.join · path)

end Disk
end NodeGen
