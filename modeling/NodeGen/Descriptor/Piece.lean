/-
The pieces of a descriptor.

`Piece.scan` cuts a descriptor into names and punctuation and drops the blanks
between them.  A name reaches as far as its characters go.  Each piece carries
the offset of its first byte.
-/
import NodeGen.Descriptor.Error
import NodeGen.Text.Blank
import NodeGen.Text.Utf8

namespace NodeGen

inductive Symbol where
  | name (text : String)
  | dot
  | opening
  | closing
  deriving DecidableEq, Repr

structure Piece where
  symbol : Symbol
  offset : Nat
  deriving DecidableEq, Repr

/-! ## Character classes -/

def isWordChar (c : Char) : Bool := c.isAlphanum || c == '_'

/-- A name does not start with a digit. -/
def isWordStart (c : Char) : Bool := c.isAlpha || c == '_'

/-- The text of an identifier, which is ASCII. -/
def isIdentifier (s : String) : Bool :=
  match s.toList with
  | [] => false
  | c :: rest => isWordStart c && rest.all isWordChar

def punctuation? (c : Char) : Option Symbol :=
  if c = '.' then some .dot
  else if c = '<' then some .opening
  else if c = '>' then some .closing
  else none

theorem isWordChar_of_isWordStart {c : Char} (h : isWordStart c = true) : isWordChar c = true := by
  simp only [isWordStart, isWordChar, Char.isAlphanum, Bool.or_eq_true] at h ⊢
  rcases h with h | h
  · exact Or.inl (Or.inl h)
  · exact Or.inr h

/-! ## Scanning -/

namespace Piece

/-- Scans `cs`, which starts at `offset`, and where `inName` tells whether the
character before it belongs to a name.  Returns what `cs` adds to that name and
the pieces after it. -/
def scanFrom (inName : Bool) (offset : Nat) :
    List Char → Except DescriptorError (List Char × List Piece)
  | [] => .ok ([], [])
  | c :: rest =>
    let next := offset + c.utf8Size
    if inName && isWordChar c then
      (scanFrom true next rest).map fun (word, pieces) => (c :: word, pieces)
    else if Text.isBlank c then
      (scanFrom false next rest).map fun (_, pieces) => ([], pieces)
    else
      match punctuation? c with
      | some symbol =>
        (scanFrom false next rest).map fun (_, pieces) => ([], ⟨symbol, offset⟩ :: pieces)
      | none =>
        if isWordStart c then
          (scanFrom true next rest).map fun (word, pieces) =>
            ([], ⟨.name (String.ofList (c :: word)), offset⟩ :: pieces)
        else .error (.unexpectedChar c offset)

def scan (src : String) : Except DescriptorError (List Piece) :=
  (scanFrom false 0 src.toList).map (·.2)

/-- Outside a name nothing is added to one. -/
theorem scanFrom_false_word {offset : Nat} {cs word : List Char} {pieces : List Piece}
    (h : scanFrom false offset cs = .ok (word, pieces)) : word = [] := by
  cases cs with
  | nil => cases h; rfl
  | cons c rest =>
    simp only [scanFrom, Bool.false_and, Bool.false_eq_true, if_false] at h
    split at h
    · cases hr : scanFrom false (offset + c.utf8Size) rest with
      | error e => rw [hr] at h; cases h
      | ok r => rw [hr] at h; cases h; rfl
    · split at h
      · cases hr : scanFrom false (offset + c.utf8Size) rest with
        | error e => rw [hr] at h; cases h
        | ok r => rw [hr] at h; cases h; rfl
      · split at h
        · cases hr : scanFrom true (offset + c.utf8Size) rest with
          | error e => rw [hr] at h; cases h
          | ok r => rw [hr] at h; cases h; rfl
        · cases h

end Piece
end NodeGen
