/-
Paths.

A path text is read as its parts between slashes.  Repeated slashes count once,
and a slash at the end is kept as a mark, since it asks for a directory.  Every
part knows where it ends in the text, so that the start of a path up to a part
has the length that it has in the text.
-/
import NodeGen.Text.Utf8

namespace NodeGen

structure Path.Part where
  name : String
  /-- How many bytes of the text come before its end. -/
  stop : Nat
  deriving DecidableEq, Repr

structure Path where
  absolute : Bool
  parts : List Path.Part
  /-- Whether a slash follows the last part. -/
  slashed : Bool
  /-- Length of the text in bytes. -/
  size : Nat
  deriving DecidableEq, Repr

namespace Path

/-! ## Reading -/

/-- What lies between the slashes of a text, empty segments included. -/
def segments : List Char → List (List Char)
  | [] => [[]]
  | c :: rest =>
    if c = '/' then [] :: segments rest
    else
      match segments rest with
      | [] => [[c]]
      | s :: more => (c :: s) :: more

/-- The segments as parts, the first of which starts at `offset`. -/
def partsFrom (offset : Nat) : List (List Char) → List Part
  | [] => []
  | s :: rest =>
    let name := String.ofList s
    let stop := offset + Text.byteSize name
    ⟨name, stop⟩ :: partsFrom (stop + 1) rest

def isAbsolute (text : String) : Bool := text.toList.head? == some '/'

def ofText (text : String) : Path where
  absolute := isAbsolute text
  parts := (partsFrom 0 (segments text.toList)).filter (·.name ≠ "")
  slashed := text.toList.getLast? == some '/'
  size := Text.byteSize text

/-- The path that ends with the last of the parts. -/
def ofParts (absolute : Bool) (parts : List Part) : Path where
  absolute := absolute
  parts := parts
  slashed := false
  size := match parts.getLast? with
    | some last => last.stop
    | none => if absolute then 1 else 0

/-- The current directory. -/
def here : Path := ofParts false [⟨".", 1⟩]

/-- The path of an entry relative to the directory `base`.  An absolute path
stands for itself. -/
def join (base path : String) : String :=
  if isAbsolute path || base = "" then path
  else if base.toList.getLast? == some '/' then base ++ path
  else base ++ "/" ++ path

/-! ## Parts -/

def names (p : Path) : List String := p.parts.map Part.name

/-- The parts without the steps that stay in place.  A relative path keeps the
one it starts with. -/
def properParts (p : Path) : List Part :=
  match p.parts with
  | [] => []
  | first :: rest =>
    (if first.name = "." && p.absolute then [] else [first]) ++ rest.filter (·.name ≠ ".")

/-- The directory that an entry is in, the current one when the path does not
name it. -/
def directory (p : Path) : Path :=
  match p.properParts.dropLast with
  | [] => if p.absolute && p.properParts ≠ [] then ofParts true [] else here
  | parts => ofParts p.absolute parts

/-- The steps from the start of the path.  A slash at the end takes one more
step, which only a directory allows. -/
def steps (p : Path) : List String :=
  p.names ++ (if p.slashed && p.parts ≠ [] then ["."] else [])

def isEmpty (p : Path) : Bool := !p.absolute && p.parts.isEmpty

def hasNul (p : Path) : Bool := p.names.any (fun name => name.toList.any (· == '\x00'))

/-! ## Limits -/

/-- The longest part and the longest path that a file system accepts. -/
def maxPart : Nat := 255

def maxSize : Nat := 4095

end Path
end NodeGen
