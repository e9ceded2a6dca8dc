/-
Lowering a schema.

The fields of a variant get their Go types in order.  The first descriptor that
does not parse stops the generation and is reported with its place in the
schema.
-/
import NodeGen.GoType

namespace NodeGen

inductive GenerateError where
  | badDescriptor (family variant field descriptor : String) (cause : DescriptorError)
  | unknownFamily (name : String)
  deriving DecidableEq, Repr

def GenerateError.message : GenerateError → String
  | badDescriptor family variant field descriptor cause =>
    "invalid type `" ++ descriptor ++ "` for field `" ++ family ++ "." ++ variant ++ "." ++ field
      ++ "`: " ++ cause.message
  | unknownFamily name => "unknown family `" ++ name ++ "`"

/-- A generation can fail, and reports what it does. -/
abbrev Generation := ExceptT GenerateError Logged

/-- A field with the Go type of its descriptor. -/
structure TypedField where
  name : String
  type : FieldType
  deriving DecidableEq, Repr

namespace Generation

def fail {α : Type} (e : GenerateError) : Generation α := throw e

/-- The result of a generation and its log. -/
def collect {α : Type} (x : Generation α) : Except GenerateError α × List Record :=
  Logged.collect x.run

def lowerField (family : Family) (variant : Variant) (field : Field) : Generation TypedField := do
  match ← (FieldType.parseLogged field.type : Logged _) with
  | .ok type => pure ⟨field.name, type⟩
  | .error cause =>
    fail (.badDescriptor family.name variant.name field.name field.type cause)

def lowerFields (family : Family) (variant : Variant) : List Field → Generation (List TypedField)
  | [] => pure []
  | field :: rest => do
    let typed ← lowerField family variant field
    let others ← lowerFields family variant rest
    pure (typed :: others)

end Generation
end NodeGen
