/-
Atomic writes.

New contents go to a temporary file in the destination's directory, which then
takes the destination's place in one call.  The destination is complete at
every moment: first the old file, then the new one.  Only where there is no old
file, the temporary one can be found in its place, if it draws that very name.  The
new file has the mode of the one it replaces.

The write is a fixed sequence of calls.  The first one to fail ends it, and the
temporary file is removed.
-/
import NodeGen.Files.Disk
import NodeGen.Log

namespace NodeGen
namespace AtomicWrite

inductive Call where
  | makeDirectories
  | readMode
  | openTemporary
  | writeContents
  | setMode
  | sync
  | rename
  deriving DecidableEq, Repr

def Call.sequence : List Call :=
  [makeDirectories, readMode, openTemporary, writeContents, setMode, sync, rename]

/-- What is to be written, and where. -/
structure Job where
  path : String
  contents : String
  deriving DecidableEq, Repr

def Job.target (job : Job) : Path := Path.ofText job.path

/-- A write under way. -/
structure Progress where
  disk : Disk
  /-- The mode of the new file. -/
  mode : Mode
  /-- The temporary file, as long as there is one. -/
  temporary : Option Place
  deriving DecidableEq, Repr

namespace Progress

def start (disk : Disk) : Progress := ⟨disk, Mode.newFile, none⟩

def onDisk (p : Progress) (result : Except IoError Unit × Disk) : Except IoError Unit × Progress :=
  (result.1, { p with disk := result.2 })

/-- Acts on the temporary file. -/
def onTemporary (p : Progress) (act : Place → Except IoError Unit × Disk) :
    Except IoError Unit × Progress :=
  match p.temporary with
  | some place => p.onDisk (act place)
  | none => (.ok (), p)

/-- Removes the temporary file. -/
def discard (p : Progress) : Disk :=
  match p.temporary with
  | some place => p.disk.remove place
  | none => p.disk

end Progress

/-- Only a destination that does not exist leaves the choice of a mode. -/
def readMode (job : Job) (p : Progress) : Except IoError Unit × Progress :=
  match p.disk.mode job.target with
  | (.ok mode, disk) => (.ok (), { p with disk := disk, mode := mode })
  | (.error e, disk) =>
    (if e = .system .notFound then .ok () else .error e, { p with disk := disk })

/-- Any unused name in the directory can be drawn, that of the destination too. -/
def openTemporary (job : Job) (p : Progress) : Except IoError Unit × Progress :=
  match p.disk.openTemporary job.target.directory with
  | (.ok place, disk) => (.ok (), { p with disk := disk, temporary := some place })
  | (.error e, disk) => (.error e, { p with disk := disk })

/-- After this there is no temporary file any more. -/
def rename (job : Job) (p : Progress) : Except IoError Unit × Progress :=
  match p.onTemporary fun place => p.disk.rename place job.target with
  | (.ok _, p) => (.ok (), { p with temporary := none })
  | (.error e, p) => (.error e, p)

def Call.perform (job : Job) (p : Progress) : Call → Except IoError Unit × Progress
  | makeDirectories => p.onDisk (p.disk.ensureDirectory job.target.directory)
  | readMode => AtomicWrite.readMode job p
  | openTemporary => AtomicWrite.openTemporary job p
  | writeContents => p.onTemporary fun place => p.disk.writeAll place (Text.encode job.contents)
  | setMode => p.onTemporary fun place => p.disk.setMode place p.mode
  | sync => p.onTemporary fun _ => p.disk.sync
  | rename => AtomicWrite.rename job p

/-- Performs calls until one fails. -/
def perform (job : Job) : List Call → Progress → Except IoError Unit × Progress
  | [], p => (.ok (), p)
  | call :: rest, p =>
    match call.perform job p with
    | (.ok _, p) => perform job rest p
    | (.error e, p) => (.error e, p)

/-- The states after each call that is performed. -/
def states (job : Job) : List Call → Progress → List Progress
  | [], _ => []
  | call :: rest, p =>
    match call.perform job p with
    | (.ok _, p) => p :: states job rest p
    | (.error _, p) => [p]

/-- Why a file was not written, and which one. -/
structure WriteError where
  path : String
  cause : IoError
  deriving DecidableEq, Repr

def WriteError.message (e : WriteError) : String :=
  "failed to write " ++ e.path ++ ": " ++ e.cause.message

/-- Writes the file, or leaves every file as it was. -/
def run (job : Job) (disk : Disk) : Except WriteError Unit × Disk :=
  let (result, p) := perform job Call.sequence (Progress.start disk)
  (result.mapError (WriteError.mk job.path), p.discard)

/-- What a write reports, which is nothing unless it succeeded. -/
def records (job : Job) : Except WriteError Unit → List Record
  | .ok _ =>
    [⟨.debug, .writer, "wrote " ++ toString (Text.byteSize job.contents) ++ " bytes to " ++ job.path⟩]
  | .error _ => []

end AtomicWrite
end NodeGen
