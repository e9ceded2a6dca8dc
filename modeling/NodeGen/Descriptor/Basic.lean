/-
Type descriptors.

A descriptor names the type of a schema field: a name, perhaps qualified by the
family it belongs to, or a list of a descriptor.
-/

namespace NodeGen

inductive Descriptor where
  | named (qualifier : Option String) (name : String)
  | list (element : Descriptor)
  deriving DecidableEq, Repr

namespace Descriptor

/-- The name of the list wrapper. -/
def listName : String := "List"

/-- The name of the type whose values are only known at run time. -/
def dynamicName : String := "Object"

/-- The outermost name, which for a list is that of the wrapper. -/
def name : Descriptor → String
  | named _ n => n
  | list _ => listName

def render : Descriptor → String
  | named (some q) n => q ++ "." ++ n
  | named none n => n
  | list d => listName ++ "<" ++ d.render ++ ">"

def stripQualifiers : Descriptor → Descriptor
  | named _ n => named none n
  | list d => list d.stripQualifiers

def element? : Descriptor → Option Descriptor
  | named _ _ => none
  | list d => some d

/-! ## Depth

A descriptor is its innermost name inside a number of lists. -/

def depth : Descriptor → Nat
  | named _ _ => 0
  | list d => d.depth + 1

def innermostName : Descriptor → String
  | named _ n => n
  | list d => d.innermostName

def innermostQualifier : Descriptor → Option String
  | named q _ => q
  | list d => d.innermostQualifier

def wrap : Nat → Descriptor → Descriptor
  | 0, d => d
  | n + 1, d => list (wrap n d)

theorem wrap_innermost (d : Descriptor) :
    wrap d.depth (named d.innermostQualifier d.innermostName) = d := by
  induction d with
  | named => rfl
  | list d ih => exact congrArg list ih

theorem depth_stripQualifiers (d : Descriptor) : d.stripQualifiers.depth = d.depth := by
  induction d with
  | named => rfl
  | list d ih => exact congrArg (· + 1) ih

theorem innermostName_stripQualifiers (d : Descriptor) :
    d.stripQualifiers.innermostName = d.innermostName := by
  induction d with
  | named => rfl
  | list d ih => exact ih

theorem stripQualifiers_stripQualifiers (d : Descriptor) :
    d.stripQualifiers.stripQualifiers = d.stripQualifiers := by
  induction d with
  | named => rfl
  | list d ih => exact congrArg list ih

/-- Removing qualifiers and taking the element commute. -/
theorem element?_stripQualifiers (d : Descriptor) :
    d.stripQualifiers.element? = d.element?.map stripQualifiers := by
  cases d <;> rfl

end Descriptor
end NodeGen
