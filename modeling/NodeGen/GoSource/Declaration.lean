/-
Go declarations.

These are the forms that generated code is made of: interfaces, structs,
functions and methods whose bodies are a few kinds of statement.  A declaration
prints as a block, a header line that opens a brace, one line per item with a
tab in front, and the closing brace.
-/
import NodeGen.Text.Lines

namespace NodeGen
namespace GoSource

/-- A name with its type, as a parameter, a receiver or a struct field. -/
structure Binding where
  name : String
  type : String
  deriving DecidableEq, Repr

structure Signature where
  name : String
  parameters : List Binding
  result : String
  deriving DecidableEq, Repr

inductive Statement where
  /-- `name := new(type)` -/
  | allocate (name type : String)
  /-- `record.field = value` -/
  | assign (record field value : String)
  /-- `return value` -/
  | give (value : String)
  /-- `return receiver.method(argument)` -/
  | giveCall (receiver method argument : String)
  deriving DecidableEq, Repr

inductive Declaration where
  | interface (name : String) (methods : List Signature)
  | struct (name : String) (fields : List Binding)
  | function (signature : Signature) (body : List Statement)
  | method (receiver : Binding) (signature : Signature) (body : List Statement)
  deriving DecidableEq, Repr

/-! ## Printing -/

def Binding.render (b : Binding) : String := b.name ++ " " ++ b.type

def Signature.render (s : Signature) : String :=
  s.name ++ "(" ++ Text.joinWith ", " (s.parameters.map Binding.render) ++ ") " ++ s.result

def Statement.render : Statement → String
  | allocate name type => name ++ " := new(" ++ type ++ ")"
  | assign record field value => record ++ "." ++ field ++ " = " ++ value
  | give value => "return " ++ value
  | giveCall receiver method argument =>
    "return " ++ receiver ++ "." ++ method ++ "(" ++ argument ++ ")"

/-- Struct fields with their types in one column.  The names are padded to the
byte length of the longest one. -/
def fieldLines (fields : List Binding) : List String :=
  let width := Text.widest (fields.map Binding.name)
  fields.map fun b => Text.padTo width b.name ++ " " ++ b.type

namespace Declaration

def header : Declaration → String
  | interface name _ => "type " ++ name ++ " interface"
  | struct name _ => "type " ++ name ++ " struct"
  | function signature _ => "func " ++ signature.render
  | method receiver signature _ => "func (" ++ receiver.render ++ ") " ++ signature.render

def lines : Declaration → List String
  | interface _ methods => methods.map Signature.render
  | struct _ fields => fieldLines fields
  | function _ body => body.map Statement.render
  | method _ _ body => body.map Statement.render

end Declaration

def indented : List String → String
  | [] => ""
  | line :: rest => "\t" ++ line ++ "\n" ++ indented rest

def block (header : String) (lines : List String) : String :=
  header ++ " \x7b\n" ++ indented lines ++ "\x7d\n"

def Declaration.render (d : Declaration) : String := block d.header d.lines

/-- Declarations with a blank line between neighbours. -/
def renderAll (ds : List Declaration) : String :=
  Text.joinWith "\n" (ds.map Declaration.render)

theorem renderAll_append {a b : List Declaration} (ha : a ≠ []) (hb : b ≠ []) :
    renderAll (a ++ b) = renderAll a ++ "\n" ++ renderAll b := by
  rw [renderAll, List.map_append,
    Text.joinWith_append "\n" (by simpa using ha) (by simpa using hb)]
  rfl

/-- Groups of declarations print as blocks with a blank line between neighbours. -/
theorem renderAll_flatMap {α : Type} {ds : List Declaration} (hds : ds ≠ [])
    {g : α → List Declaration} (hg : ∀ a, g a ≠ []) (as : List α) :
    renderAll (ds ++ as.flatMap g) =
      Text.joinWith "\n" (renderAll ds :: as.map fun a => renderAll (g a)) := by
  induction as generalizing ds with
  | nil => rw [List.flatMap_nil, List.append_nil, List.map_nil, Text.joinWith_singleton]
  | cons a rest ih =>
    have hrest : g a ++ rest.flatMap g ≠ [] := List.append_ne_nil_of_left_ne_nil (hg a) _
    rw [List.flatMap_cons, renderAll_append hds hrest, ih (hg a), List.map_cons,
      Text.joinWith_cons_cons]

/-! ## Files -/

/-- Text under a package clause and a line that names its generator. -/
def withPreamble (generator package text : String) : String :=
  "package " ++ package ++ "\n\n// This code is generated by `" ++ generator ++ "`.\n\n" ++ text

end GoSource
end NodeGen
