/-
Steps that are decided by a flag.

A step is left to the operator unless a flag decides it.  A question that is left goes
to the console (`confirm_strategyWith_asks`).  A question about a step that is decided shows
nothing and leaves the console as it was (`confirm_strategyWith_preset`), so the console that
both steps share sees the questions that are left to it and no others.  Any strategy can
stand for the console.
-/
import NodeGen.Confirmation.Strategy

namespace NodeGen
namespace ConfirmFlags

/-- Whether the step is left to the operator. -/
def asks (flags : ConfirmFlags) : Step → Bool
  | .write => !flags.yes
  | .format => !flags.yes && !flags.noFormat

/-- The answer to a step that is not. -/
def preset (flags : ConfirmFlags) : Step → Bool
  | .write => true
  | .format => !flags.noFormat

/-- The strategy that the flags make of what stands for the console. -/
def strategyWith (flags : ConfirmFlags) (console : Strategy) : Strategy :=
  flags.strategy (m := Id) console

/-- A console is opened if writing is not agreed to beforehand, and else it is not. -/
theorem strategy_eq {m : Type → Type} [Monad m] [LawfulMonad m] (flags : ConfirmFlags)
    (openConsole : m Strategy) (unopened : Strategy) :
    flags.strategy openConsole =
      if flags.yes then pure (flags.strategyWith unopened)
      else flags.strategyWith <$> openConsole := by
  obtain ⟨yes, noFormat⟩ := flags
  cases yes with
  | true => cases noFormat <;> rfl
  | false =>
    cases noFormat with
    | true => exact bind_pure_comp _ _
    | false => exact (id_map openConsole).symm

theorem confirm_strategyWith_asks {flags : ConfirmFlags} {step : Step}
    (h : flags.asks step = true) (console : Strategy) (prompt : String) :
    Confirmer.confirm (flags.strategyWith console) step prompt =
      ((Confirmer.confirm console step prompt).1,
        flags.strategyWith (Confirmer.confirm console step prompt).2) := by
  obtain ⟨yes, noFormat⟩ := flags
  cases yes <;> cases noFormat <;> cases step <;> first | rfl | cases h

theorem confirm_strategyWith_preset {flags : ConfirmFlags} {step : Step}
    (h : flags.asks step = false) (console : Strategy) (prompt : String) :
    Confirmer.confirm (flags.strategyWith console) step prompt =
      (Strategy.silent (flags.preset step), flags.strategyWith console) := by
  obtain ⟨yes, noFormat⟩ := flags
  cases yes <;> cases noFormat <;> cases step <;> first | rfl | cases h

/-- The strategy that the flags make of a console. -/
def strategyOf (flags : ConfirmFlags) (c : Console) : Strategy :=
  flags.strategy (m := Id) (.console c)

theorem strategyOf_of_yes {flags : ConfirmFlags} (h : flags.yes = true) (c c' : Console) :
    flags.strategyOf c = flags.strategyOf c' := by
  obtain ⟨yes, noFormat⟩ := flags
  obtain rfl : yes = true := h
  cases noFormat <;> rfl

theorem confirm_strategyOf_asks {flags : ConfirmFlags} {step : Step} (h : flags.asks step = true)
    (c : Console) (prompt : String) :
    Confirmer.confirm (flags.strategyOf c) step prompt =
      ((Confirmer.confirm c step prompt).1,
        flags.strategyOf (Confirmer.confirm c step prompt).2) :=
  confirm_strategyWith_asks h (.console c) prompt

theorem confirm_strategyOf_preset {flags : ConfirmFlags} {step : Step} (h : flags.asks step = false)
    (c : Console) (prompt : String) :
    Confirmer.confirm (flags.strategyOf c) step prompt =
      (Strategy.silent (flags.preset step), flags.strategyOf c) :=
  confirm_strategyWith_preset h (.console c) prompt

end ConfirmFlags
end NodeGen
