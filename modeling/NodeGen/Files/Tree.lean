/-
File trees.

A tree maps places to entries.  A place is the list of names from the root, so
it involves no link.  The links to one file share its number: changing the file
through one of them changes it at every other, while replacing an entry changes
that place alone.
-/
import NodeGen.Files.Error
import NodeGen.Files.Path

namespace NodeGen

/-- Names from the root. -/
abbrev Place := List String

/-- Permission bits. -/
abbrev Mode := Nat

/-- The mode of a file that replaces nothing. -/
def Mode.newFile : Mode := 0o644

/-- The mode that a directory is made with. -/
def Mode.newDirectory : Mode := 0o755

structure File where
  mode : Mode
  contents : Text.Bytes
  deriving DecidableEq, Repr

inductive Entry where
  | directory
  | file (number : Nat) (file : File)
  | link (target : String)
  deriving DecidableEq, Repr

structure FileTree where
  entries : List (Place × Entry)
  /-- The place of the current directory.  The directory may have been removed, and is
  there again as soon as there is one at its place. -/
  current : Place
  /-- The modes of the directories that were given another one since. -/
  directoryModes : List (Place × Mode) := []
  deriving DecidableEq, Repr

namespace FileTree

/-! ## Entries -/

def get? (t : FileTree) (p : Place) : Option Entry :=
  if p = [] then some .directory else t.entries.lookup p

def remove (t : FileTree) (p : Place) : FileTree :=
  { t with entries := t.entries.filter (·.1 ≠ p) }

def put (t : FileTree) (p : Place) (e : Entry) : FileTree :=
  { t with entries := (p, e) :: (t.remove p).entries }

/-- Puts a new directory at a place. -/
def putDirectory (t : FileTree) (p : Place) : FileTree :=
  { t.put p .directory with directoryModes := t.directoryModes.filter (·.1 ≠ p) }

def isDirectoryAt (t : FileTree) (p : Place) : Bool := t.get? p = some .directory

/-- The mode of the directory at a place. -/
def directoryMode (t : FileTree) (p : Place) : Mode :=
  (t.directoryModes.lookup p).getD Mode.newDirectory

theorem get?_root (t : FileTree) : t.get? [] = some .directory := if_pos rfl

theorem lookup_filter_ne {α : Type} (entries : List (Place × α)) (p q : Place) :
    (entries.filter (·.1 ≠ p)).lookup q = if q = p then none else entries.lookup q := by
  induction entries with
  | nil => simp
  | cons head rest ih =>
    obtain ⟨r, e⟩ := head
    rw [List.filter_cons]
    by_cases hr : r = p
    · subst hr
      rw [if_neg (by simp), ih, List.lookup_cons]
      by_cases hq : q = r
      · simp [hq]
      · simp [hq, beq_eq_false_iff_ne.2 hq]
    · rw [if_pos (by simp [hr]), List.lookup_cons, List.lookup_cons, ih]
      by_cases hq : q = r
      · subst hq; simp [hr]
      · simp [beq_eq_false_iff_ne.2 hq]

theorem get?_put (t : FileTree) {p : Place} (hp : p ≠ []) (e : Entry) (q : Place) :
    (t.put p e).get? q = if q = p then some e else t.get? q := by
  by_cases hq : q = []
  · subst hq; simp [get?, Ne.symm hp]
  · simp only [get?, hq, if_false, put, List.lookup_cons, remove, lookup_filter_ne]
    by_cases h : q = p
    · simp [h]
    · simp [h, beq_eq_false_iff_ne.2 h]

/-! ## Resolving paths

A walk starts at a directory and takes the steps of a path, following the links
it meets.  The last step may lead to a place with no entry. -/

/-- Where a walk ends. -/
inductive Found where
  | directory (place : Place)
  /-- A file, a link or no entry at all. -/
  | other (place : Place)
  deriving DecidableEq, Repr

/-- Takes the steps from the directory `start`.  On a link that is to be
followed, `onLink` goes on with the target and the steps after it. -/
def walkWith (t : FileTree) (follow : Bool)
    (onLink : Place → String → List String → Except SystemError Found) (start : Place) :
    List String → Except SystemError Found
  | [] => .ok (.directory start)
  | step :: rest =>
    if step = "." then t.walkWith follow onLink start rest
    else if step = ".." then t.walkWith follow onLink start.dropLast rest
    else if !t.isDirectoryAt start then .error .notFound
    else if Text.byteSize step > Path.maxPart then .error .nameTooLong
    else
      let place := start ++ [step]
      match t.get? place with
      | some .directory => t.walkWith follow onLink place rest
      | some (.file _ _) => if rest = [] then .ok (.other place) else .error .notDirectory
      | some (.link target) => if rest = [] && !follow then .ok (.other place) else onLink start target rest
      | none => if rest = [] then .ok (.other place) else .error .notFound

/-- The number of links that one walk may follow. -/
def maxLinks : Nat := 40

/-- A walk that may follow `links` more links. -/
def walk (t : FileTree) (follow : Bool) (links : Nat) :
    Place → List String → Except SystemError Found :=
  t.walkWith follow fun start target rest =>
    match links with
    | 0 => .error .tooManyLinks
    | links + 1 =>
      let path := Path.ofText target
      t.walk follow links (if path.absolute then [] else start) (path.steps ++ rest)

/-- The error of a path that no call accepts. -/
def pathError? (p : Path) : Option IoError :=
  if p.hasNul then some .nulInPath
  else if p.isEmpty then some (.system .notFound)
  else if p.size > Path.maxSize then some (.system .nameTooLong)
  else none

def startOf (t : FileTree) (p : Path) : Place := if p.absolute then [] else t.current

/-- Where a path leads when every link is followed. -/
def resolve (t : FileTree) (p : Path) : Except IoError Found :=
  match pathError? p with
  | some e => .error e
  | none =>
    match t.walk true maxLinks (t.startOf p) p.steps with
    | .ok found => .ok found
    | .error e => .error (.system e)

/-- What the last part of a path names, without following a link there. -/
inductive Target where
  /-- A name in a directory, which may have no entry yet. -/
  | named (directory : Place) (name : String)
  /-- The root, or a step that stays in place or goes up. -/
  | step
  deriving DecidableEq, Repr

def resolveTarget (t : FileTree) (p : Path) : Except IoError Target :=
  match pathError? p with
  | some e => .error e
  | none =>
    match t.walk true maxLinks (t.startOf p) (p.names.dropLast ++ ["."]) with
    | .error e => .error (.system e)
    | .ok (.other _) => .error (.system .notDirectory)
    | .ok (.directory place) =>
      match p.names.getLast? with
      | none => .ok .step
      | some last =>
        if last = "." || last = ".." then .ok .step
        else if !t.isDirectoryAt place then .error (.system .notFound)
        else if Text.byteSize last > Path.maxPart then .error (.system .nameTooLong)
        else .ok (.named place last)

end FileTree
end NodeGen
