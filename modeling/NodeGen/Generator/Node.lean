/-
The Go declarations of a family.

A family becomes a base interface and a visitor interface, and each variant a
struct, a constructor and a method that dispatches to the visitor.
-/
import NodeGen.Generator.Lowering
import NodeGen.GoSource.Declaration

namespace NodeGen

open GoSource

/-- The dispatch method that every variant implements. -/
def dispatchName : String := "accept"

/-- What dispatch and the visitor methods return. -/
def dispatchResult : String := "(interface\x7b\x7d, error)"

def TypedField.binding (f : TypedField) : Binding := ⟨f.name, f.type.render⟩

namespace Family

/-- The signature of the dispatch method, the same for every variant. -/
def dispatch (f : Family) : Signature :=
  ⟨dispatchName, [⟨"visitor", f.visitorName⟩], dispatchResult⟩

def visitSignature (f : Family) (v : Variant) : Signature :=
  ⟨f.visitMethod v, [⟨f.name, "*" ++ v.name⟩], dispatchResult⟩

def baseInterface (f : Family) : Declaration :=
  .interface f.baseName [f.dispatch]

def visitorInterface (f : Family) : Declaration :=
  .interface f.visitorName (f.variants.map f.visitSignature)

def interfaces (f : Family) : List Declaration :=
  [f.baseInterface, f.visitorInterface]

def structDeclaration (v : Variant) (fields : List TypedField) : Declaration :=
  .struct v.name (fields.map TypedField.binding)

/-- The constructor allocates the node, sets its fields in order and returns
it.  The node goes by the name of the family. -/
def constructor (f : Family) (v : Variant) (fields : List TypedField) : Declaration :=
  .function ⟨"New" ++ v.name, fields.map TypedField.binding, "*" ++ v.name⟩
    (.allocate f.name v.name
      :: fields.map (fun field => .assign f.name field.name field.name)
      ++ [.give f.name])

def acceptMethod (f : Family) (v : Variant) : Declaration :=
  .method ⟨f.name, "*" ++ v.name⟩ f.dispatch [.giveCall "visitor" (f.visitMethod v) f.name]

def nodeDeclarations (f : Family) (v : Variant) (fields : List TypedField) : List Declaration :=
  [structDeclaration v fields, f.constructor v fields, f.acceptMethod v]

end Family

namespace Generation

def variant (f : Family) (v : Variant) : Generation (List Declaration) := do
  let fields ← lowerFields f v v.fields
  pure (f.nodeDeclarations v fields)

/-- The declarations of all the variants, in order. -/
def variants (f : Family) : List Variant → Generation (List Declaration)
  | [] => pure []
  | v :: rest => do
    let here ← variant f v
    let others ← variants f rest
    pure (here ++ others)

def family (f : Family) : Generation (List Declaration) := do
  report .info .generator
    ("generating " ++ toString f.variants.length ++ " variants for family `" ++ f.name ++ "`")
  let nodes ← variants f f.variants
  pure (f.interfaces ++ nodes)

end Generation
end NodeGen
