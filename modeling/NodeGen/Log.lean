/-
Log records.

Every part of the library reports what it did as records, in order, and leaves
it to the caller which of them to show.  A record is visible at a level when it
is at least as severe.
-/

namespace NodeGen

inductive Level where
  | error
  | warn
  | info
  | debug
  | trace
  deriving DecidableEq, Repr

namespace Level

/-- Lower ranks are more severe. -/
def rank : Level → Nat
  | error => 1
  | warn => 2
  | info => 3
  | debug => 4
  | trace => 5

def name : Level → String
  | error => "ERROR"
  | warn => "WARN"
  | info => "INFO"
  | debug => "DEBUG"
  | trace => "TRACE"

end Level

/-- The part of the library that a record comes from. -/
inductive Origin where
  | descriptor
  | generator
  | writer
  | gate
  deriving DecidableEq, Repr

def Origin.label : Origin → String
  | descriptor => "glox_build::descriptor"
  | generator => "glox_build::sourcegen_ast"
  | writer => "glox_build::sourcegen"
  | gate => "glox_build::gate"

structure Record where
  level : Level
  origin : Origin
  message : String
  deriving DecidableEq, Repr

namespace Record

/-- A limit of `none` shows nothing. -/
def visible (limit : Option Level) (r : Record) : Bool :=
  match limit with
  | none => false
  | some l => r.level.rank ≤ l.rank

def line (r : Record) : String :=
  "[" ++ r.level.name ++ " " ++ r.origin.label ++ "] " ++ r.message

end Record

/-! ## Computations that report -/

/-- A computation that adds records to a log. -/
abbrev Logged := StateM (List Record)

def report (level : Level) (origin : Origin) (message : String) : Logged Unit :=
  modify (· ++ [⟨level, origin, message⟩])

/-- The result of a computation and the records it added. -/
def Logged.collect {α : Type} (x : Logged α) : α × List Record :=
  x.run []

end NodeGen
