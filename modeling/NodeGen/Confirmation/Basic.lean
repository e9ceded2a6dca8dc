/-
Confirmation.

A confirmer is asked before each action and answers yes or no, or fails to
answer.  It may change with every question.
-/
import NodeGen.Files.Error
import NodeGen.Text.Utf8

namespace NodeGen

/-- The two points at which confirmation is asked for. -/
inductive Step where
  | write
  | format
  deriving DecidableEq, Repr

structure Reply where
  answer : Except IoError Bool
  /-- What the question put on the operator's terminal. -/
  shown : Text.Bytes

/-- A way of answering, whose state is the value itself. -/
class Confirmer (σ : Type) where
  confirm : σ → Step → String → Reply × σ

namespace Confirmer

/-- Asks the questions in order. -/
def confirmAll {σ : Type} [Confirmer σ] (c : σ) : List (Step × String) → List Reply × σ
  | [] => ([], c)
  | (step, prompt) :: rest =>
    let (reply, c) := confirm c step prompt
    let (replies, c) := confirmAll c rest
    (reply :: replies, c)

end Confirmer
end NodeGen
