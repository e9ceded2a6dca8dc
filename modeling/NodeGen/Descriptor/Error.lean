/-
The ways a type descriptor can be malformed.

Offsets count UTF-8 bytes from the start of the descriptor.
-/
import NodeGen.Text.Quoted

namespace NodeGen

/-- What the parser would have accepted instead. -/
inductive Expectation where
  | identifier
  | closingBracket
  deriving DecidableEq, Repr

def Expectation.text : Expectation → String
  | identifier => "identifier"
  | closingBracket => "`>`"

inductive DescriptorError where
  | empty
  | unexpectedChar (found : Char) (offset : Nat)
  | expected (what : Expectation) (offset : Nat)
  | trailing (offset : Nat)
  | unknownWrapper (name : String)
  deriving DecidableEq, Repr

def DescriptorError.message : DescriptorError → String
  | empty => "empty type descriptor"
  | unexpectedChar found offset =>
    "unexpected character " ++ Text.quotedChar found ++ " at offset " ++ toString offset
  | expected what offset => "expected " ++ what.text ++ " at offset " ++ toString offset
  | trailing offset => "unexpected input at offset " ++ toString offset
  | unknownWrapper name =>
    "unknown wrapper `" ++ name ++ "`, only `List<...>` is supported"

end NodeGen
