/-
Confirmation strategies.

Besides the console there are fixed answers, a script of answers that records
its prompts, and a strategy for each of the two steps.
-/
import NodeGen.Confirmation.Console

namespace NodeGen

inductive Strategy where
  | alwaysConfirm
  | alwaysDecline
  /-- Answers from a list and declines once it runs out. -/
  | scripted (answers : List Bool) (prompts : List String)
  | console (c : Console)
  | perStep (write format : Strategy)
  deriving DecidableEq, Inhabited, Repr

namespace Strategy

def silent (answer : Bool) : Reply := ⟨.ok answer, []⟩

def confirm : Strategy → Step → String → Reply × Strategy
  | alwaysConfirm, _, _ => (silent true, alwaysConfirm)
  | alwaysDecline, _, _ => (silent false, alwaysDecline)
  | scripted answers prompts, _, prompt =>
    (silent (answers.headD false), scripted answers.tail (prompts ++ [prompt]))
  | console c, step, prompt =>
    let (reply, c) := Confirmer.confirm c step prompt
    (reply, console c)
  | perStep write format, .write, prompt =>
    let (reply, write) := write.confirm .write prompt
    (reply, perStep write format)
  | perStep write format, .format, prompt =>
    let (reply, format) := format.confirm .format prompt
    (reply, perStep write format)

end Strategy

instance : Confirmer Strategy where
  confirm := Strategy.confirm

/-! ## Strategies of a command line -/

/-- The flags that decide how both steps are answered. -/
structure ConfirmFlags where
  /-- Write without asking. -/
  yes : Bool
  /-- Never format. -/
  noFormat : Bool
  deriving DecidableEq, Repr

/-- The strategy that the flags ask for.  The console is opened at most once,
and both steps share it. -/
def ConfirmFlags.strategy {m : Type → Type} [Monad m] (flags : ConfirmFlags)
    (openConsole : m Strategy) : m Strategy :=
  match flags.yes, flags.noFormat with
  | true, false => pure .alwaysConfirm
  | true, true => pure (.perStep .alwaysConfirm .alwaysDecline)
  | false, false => openConsole
  | false, true => do
    let console ← openConsole
    pure (.perStep console .alwaysDecline)

end NodeGen
