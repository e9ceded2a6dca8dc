/-
Schemas.

A family is a named list of variants, and a variant a named list of fields.
Every name that the generated code derives from a family is given here.  Field
order is the order of the struct fields and of the constructor parameters.
-/
import NodeGen.Text.Letters

namespace NodeGen

structure Field where
  /-- A type descriptor. -/
  type : String
  name : String
  deriving DecidableEq, Repr

structure Variant where
  name : String
  fields : List Field
  deriving DecidableEq, Repr

structure Family where
  name : String
  variants : List Variant
  deriving DecidableEq, Repr

namespace Family

/-- The name of the interface that all variants implement. -/
def baseName (f : Family) : String := Text.capitalize f.name

def visitorName (f : Family) : String := f.name ++ "Visitor"

def fileName (f : Family) : String := f.name ++ ".go"

/-- The visitor method that a variant dispatches to. -/
def visitMethod (f : Family) (v : Variant) : String :=
  "visit" ++ v.name ++ f.baseName

/-- The first variant of that name. -/
def variant? (f : Family) (name : String) : Option Variant :=
  f.variants.find? (·.name == name)

end Family
end NodeGen
