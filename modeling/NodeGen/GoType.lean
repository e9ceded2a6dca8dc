/-
The Go types of fields.

`FieldType.parse` reads a descriptor, drops its qualifiers and gives the Go type
of the field along with how the field holds it.  Interfaces carry their own
indirection and are held by value.  Records and lists are held through a
pointer.
-/
import NodeGen.Descriptor.Parser
import NodeGen.Log
import NodeGen.Schema.Builtin

namespace NodeGen

inductive Ownership where
  | value
  | owned
  deriving DecidableEq, Repr

inductive GoType where
  /-- The empty interface. -/
  | dynamic
  /-- The interface of a family. -/
  | base (name : String)
  | named (name : String)
  | list (element : GoType) (ownership : Ownership)
  deriving DecidableEq, Repr

structure FieldType where
  type : GoType
  ownership : Ownership
  deriving DecidableEq, Repr

/-! ## Printing -/

def Ownership.render : Ownership → String
  | value => ""
  | owned => "*"

def GoType.render : GoType → String
  | dynamic => "interface\x7b\x7d"
  | base name => name
  | named name => name
  | list element ownership => "[]" ++ ownership.render ++ element.render

def FieldType.render (t : FieldType) : String :=
  t.ownership.render ++ t.type.render

/-! ## Types of descriptors -/

namespace GoType

/-- How a field of this type is held. -/
def fieldOwnership : GoType → Ownership
  | dynamic => .value
  | base _ => .value
  | named _ => .owned
  | list _ _ => .owned

/-- How a list holds its elements. -/
def elementOwnership : GoType → Ownership
  | base _ => .value
  | _ => .owned

/-- The type of a name that is not inside a list. -/
def ofName (name : String) : GoType :=
  if name = Descriptor.dynamicName then dynamic
  else if isBaseType name then base (Text.capitalize (Text.lowerAscii name))
  else named name

def ofDescriptor : Descriptor → GoType
  | .named _ name => ofName name
  | .list d => list (ofDescriptor d) (ofDescriptor d).elementOwnership

theorem ofDescriptor_stripQualifiers (d : Descriptor) :
    ofDescriptor d.stripQualifiers = ofDescriptor d := by
  induction d with
  | named => rfl
  | list d ih => simp only [Descriptor.stripQualifiers, ofDescriptor, ih]

end GoType

namespace FieldType

def ofType (t : GoType) : FieldType := ⟨t, t.fieldOwnership⟩

def ofDescriptor (d : Descriptor) : FieldType := ofType (GoType.ofDescriptor d.stripQualifiers)

/-- The field type that a descriptor text stands for. -/
def parse (src : String) : Except DescriptorError FieldType :=
  (Descriptor.parse src).map ofDescriptor

/-- Reading as the generator does it, which reports every success. -/
def parseLogged (src : String) : Logged (Except DescriptorError FieldType) := do
  match parse src with
  | .error e => pure (.error e)
  | .ok t =>
    report .debug .descriptor ("translated descriptor `" ++ src ++ "` to `" ++ t.render ++ "`")
    pure (.ok t)

end FieldType
end NodeGen
