/-
File system calls.

Each call acts on a whole tree and either returns the new tree or fails and
changes nothing.
-/
import NodeGen.Files.Tree
import NodeGen.Text.Lines

namespace NodeGen
namespace FileTree

/-! ## Directories -/

def makeDirectory (t : FileTree) (p : Path) : Except IoError FileTree := do
  match ← t.resolveTarget p with
  | .step => .error (.system .alreadyExists)
  | .named dir name =>
    match t.get? (dir ++ [name]) with
    | some _ => .error (.system .alreadyExists)
    | none => .ok (t.putDirectory (dir ++ [name]))

def isDirectory (t : FileTree) (p : Path) : Bool :=
  match t.resolve p with
  | .ok (.directory _) => true
  | _ => false

def Place.render (p : Place) : String := "/" ++ Text.joinWith "/" p

/-- The path of the current directory, which has none while it is gone.  A tree knows
directories by their places, so one that is made where the current directory was removed is
taken for it, although no system would find its path again. -/
def currentDirectory (t : FileTree) : Except IoError String :=
  if t.isDirectoryAt t.current then .ok (Place.render t.current)
  else .error (.system .notFound)

/-! ## Files -/

/-- The mode of what a path leads to. -/
def mode (t : FileTree) (p : Path) : Except IoError Mode := do
  match ← t.resolve p with
  | .directory place => .ok (t.directoryMode place)
  | .other place =>
    match t.get? place with
    | some (.file _ file) => .ok file.mode
    | _ => .error (.system .notFound)

/-- A number that no file of the tree has. -/
def freshNumber (t : FileTree) : Nat :=
  (t.entries.map fun e => match e.2 with
    | .file number _ => number + 1
    | _ => 0).foldr max 0

/-- The names that a temporary file can get, in order.  A number follows the
label that was drawn for it only when the label is taken. -/
def temporaryNames (t : FileTree) (label : Option String) : List String :=
  (label.toList ++ (List.range (t.entries.length + 1)).map toString).map (".tmp" ++ ·)

/-- A name that has no entry in the directory. -/
def unusedName? (t : FileTree) (dir : Place) (label : Option String) : Option String :=
  (t.temporaryNames label).find? fun name => t.get? (dir ++ [name]) = none

/-- Makes an empty file under an unused name, for its owner alone. -/
def makeTemporary (t : FileTree) (label : Option String) :
    Found → Except IoError (Place × FileTree)
  | .other _ => .error (.system .notDirectory)
  | .directory place =>
    if !t.isDirectoryAt place then .error (.system .notFound)
    else
      match t.unusedName? place label with
      | none => .error (.system .alreadyExists)
      | some name =>
        .ok (place ++ [name], t.put (place ++ [name]) (.file t.freshNumber ⟨0o600, []⟩))

def openTemporary (t : FileTree) (dir : Path) (label : Option String) :
    Except IoError (Place × FileTree) := do
  if !dir.absolute then let _ ← t.currentDirectory
  t.makeTemporary label (← t.resolve dir)

/-- Changes the file at a place, if there is one. -/
def editFile (t : FileTree) (place : Place) (edit : File → File) : FileTree :=
  match t.get? place with
  | some (.file number file) => t.put place (.file number (edit file))
  | _ => t

/-- Moves the file at `source` to `target`, whose entry it replaces.  Only a
directory can be moved onto a path that asks for one. -/
def rename (t : FileTree) (source : Place) (target : Path) : Except IoError FileTree := do
  match ← t.resolveTarget target with
  | .step => .error (.system .busy)
  | .named dir name =>
    match t.get? source with
    | none => .error (.system .notFound)
    | some entry =>
      if target.slashed then .error (.system .notDirectory)
      else if t.isDirectoryAt (dir ++ [name]) then .error (.system .isDirectory)
      else .ok ((t.remove source).put (dir ++ [name]) entry)

/-! ## Links to one file -/

/-- Changes a file wherever it is linked. -/
def editNumber (t : FileTree) (number : Nat) (edit : File → File) : FileTree :=
  { t with
    entries := t.entries.map fun e =>
      match e with
      | (place, .file n file) => (place, .file n (if n = number then edit file else file))
      | other => other }

/-- Gives the file that a path leads to, which is made if it does not exist, a new
mode and new contents.  A path that leads to no file is left alone. -/
def overwrite (t : FileTree) (p : Path) (new : File) : FileTree :=
  match t.resolve p with
  | .ok (.other place) =>
    match t.get? place with
    | some (.file number _) => t.editNumber number fun _ => new
    | some _ => t
    | none => t.put place (.file t.freshNumber new)
  | _ => t

/-- Adds to the end of the file that a path leads to, which is made if it does
not exist.  A path that leads to no file is left alone. -/
def append (t : FileTree) (p : Path) (bytes : Text.Bytes) : FileTree :=
  match t.resolve p with
  | .ok (.other place) =>
    match t.get? place with
    | some (.file number _) =>
      t.editNumber number fun file => { file with contents := file.contents ++ bytes }
    | some _ => t
    | none => t.put place (.file t.freshNumber ⟨Mode.newFile, bytes⟩)
  | _ => t

/-- Makes a second link to a file. -/
def link (t : FileTree) (source target : Path) : FileTree :=
  match t.resolveTarget source, t.resolveTarget target with
  | .ok (.named dir name), .ok (.named newDir newName) =>
    match t.get? (dir ++ [name]) with
    | some entry => t.put (newDir ++ [newName]) entry
    | none => t
  | _, _ => t

/-- Puts an entry at a path. -/
def place (t : FileTree) (p : Path) (entry : Entry) : FileTree :=
  match t.resolveTarget p with
  | .ok (.named dir name) => t.put (dir ++ [name]) entry
  | _ => t

end FileTree
end NodeGen
