/-
Quoted text.

A quoted character is shown as itself unless it is hidden.  A quoted text is
ASCII throughout.  In both, the quotation marks and the backslash are escaped,
so that the quoted form is one line and shows where it ends.
-/
import NodeGen.Text.Hidden

namespace NodeGen
namespace Text

/-- The letter that stands for a character after a backslash. -/
def escapeLetter? (c : Char) : Option Char :=
  if c = '\t' then some 't'
  else if c = '\r' then some 'r'
  else if c = '\n' then some 'n'
  else if c = '\\' || c = '\x27' then some c
  else none

def hexDigits (n : Nat) : List Char :=
  Nat.toDigits 16 n

def escapeCode (c : Char) : List Char :=
  ['\\', 'u', '\x7b'] ++ hexDigits c.toNat ++ ['\x7d']

/-! ## Characters -/

/-- A character inside single quotes. -/
def escapeHidden (c : Char) : List Char :=
  match escapeLetter? c with
  | some letter => ['\\', letter]
  | none =>
    if c = '\x00' then ['\\', '0']
    else if isHidden c then escapeCode c
    else [c]

def quotedChar (c : Char) : String :=
  String.ofList (['\x27'] ++ escapeHidden c ++ ['\x27'])

/-! ## Texts -/

/-- A character inside double quotes. -/
def escapeToAscii (c : Char) : List Char :=
  match escapeLetter? c with
  | some letter => ['\\', letter]
  | none =>
    if c = '"' then ['\\', c]
    else if 0x20 ≤ c.toNat && c.toNat ≤ 0x7E then [c]
    else escapeCode c

def quoted (s : String) : String :=
  String.ofList (['"'] ++ s.toList.flatMap escapeToAscii ++ ['"'])

end Text
end NodeGen
