/-
Plain text.

`plain` is what a text shows where control sequences are not obeyed: the
sequences that start with an escape character are left out, and so are the other
control characters except for white space.

White space inside a sequence is shown.  In a text of its own it ends the
sequence.  In a stream the sequence is only interrupted, by the white space and
whatever can be shown right after it, unless that has a character beyond ASCII.
-/
import NodeGen.Text.Blank
import NodeGen.Text.Utf8

namespace NodeGen
namespace Text

/-- Where a plain text goes to. -/
inductive Medium where
  | text
  | stream
  deriving DecidableEq, Repr

namespace Plain

/-- Where a reader of control sequences is. -/
inductive Mode where
  /-- Outside of any sequence. -/
  | text
  /-- After an escape character. -/
  | escape
  /-- After an escape character and marks, before the character that ends them. -/
  | marks
  /-- After an escape character and a bracket. -/
  | parameters
  /-- In a string that a bell ends. -/
  | title
  /-- At the head of a device control string. -/
  | deviceHead
  | deviceParameters
  | deviceMarks
  /-- In a string that a terminator ends. -/
  | data
  deriving DecidableEq, Repr

def isAscii (c : Char) : Bool := c.toNat < 0x80

def isControl (c : Char) : Bool := c.toNat < 0x20 || c.toNat == 0x7F

/-- Whether a character is shown outside of any sequence. -/
def isShown (c : Char) : Bool := !isControl c || isAsciiBlank c

def isMark (c : Char) : Bool := 0x20 ≤ c.toNat && c.toNat ≤ 0x2F

def isParameter (c : Char) : Bool := 0x30 ≤ c.toNat && c.toNat ≤ 0x3B

def isFinal (c : Char) : Bool := 0x40 ≤ c.toNat

/-- The terminator is looked for among the bytes of the text. -/
def hasTerminator (c : Char) : Bool := (String.utf8EncodeChar c).contains 0x9C

/-- The sequence that a character after an escape character starts. -/
def afterEscape (c : Char) : Mode :=
  if c = '[' then .parameters
  else if c = ']' then .title
  else if c = 'P' then .deviceHead
  else if c = 'X' || c = '^' || c = '_' then .data
  else if isMark c then .marks
  else .text

/-- The mode after a character that is no control character. -/
def afterAscii (c : Char) : Mode → Mode
  | .text => .text
  | .escape => afterEscape c
  | .marks => if isMark c then .marks else .text
  | .parameters => if isFinal c then .text else .parameters
  | .title => .title
  | .deviceHead =>
    if isMark c then .deviceMarks else if isFinal c then .data else .deviceParameters
  | .deviceParameters =>
    if isMark c then .deviceMarks else if isParameter c then .deviceParameters else .data
  | .deviceMarks => if isMark c then .deviceMarks else .data
  | .data => .data

/-- Modes in which white space is shown. -/
def showsBlanks : Mode → Bool
  | .text | .escape | .marks | .parameters => true
  | .title | .deviceHead | .deviceParameters | .deviceMarks | .data => false

/-- Whether a character is shown, and the mode after it. -/
def step (m : Mode) (c : Char) : Bool × Mode :=
  if c = '\x1b' then (false, .escape)
  else if c = '\x18' || c = '\x1a' then (false, .text)
  else if isControl c then
    (showsBlanks m && isAsciiBlank c, if m = .title && c = '\x07' then .text else m)
  else if isAscii c then (m = .text, afterAscii c m)
  else (m = .text, if m = .data && hasTerminator c then .text else m)

/-- Reads on in a mode.  While it is interrupted, characters are shown as
outside of any sequence. -/
def read (medium : Medium) (m : Mode) (interrupted : Bool) : List Char → List Char
  | [] => []
  | c :: rest =>
    if interrupted && isShown c then
      c :: read medium (if isAscii c then m else .text) true rest
    else
      let (shown, next) := step m c
      if shown then c :: read medium (if medium = .stream then next else .text) true rest
      else read medium next false rest

end Plain

def plain (medium : Medium) (s : String) : String :=
  String.ofList (Plain.read medium .text false s.toList)

end Text
end NodeGen
