/-
The built-in families.
-/
import NodeGen.Schema.Basic

namespace NodeGen

/-- The expression nodes. -/
def exprFamily : Family where
  name := "expr"
  variants := [
    ⟨"Assign", [⟨"Token", "name"⟩, ⟨"Expr", "value"⟩]⟩,
    ⟨"Binary", [⟨"Expr", "left"⟩, ⟨"Token", "operator"⟩, ⟨"Expr", "right"⟩]⟩,
    ⟨"Call", [⟨"Expr", "callee"⟩, ⟨"Token", "paren"⟩, ⟨"List<Expr>", "arguments"⟩]⟩,
    ⟨"Get", [⟨"Expr", "object"⟩, ⟨"Token", "name"⟩]⟩,
    ⟨"Grouping", [⟨"Expr", "expression"⟩]⟩,
    ⟨"Literal", [⟨"Object", "value"⟩]⟩,
    ⟨"Logical", [⟨"Expr", "left"⟩, ⟨"Token", "operator"⟩, ⟨"Expr", "right"⟩]⟩,
    ⟨"Set", [⟨"Expr", "object"⟩, ⟨"Token", "name"⟩, ⟨"Expr", "value"⟩]⟩,
    ⟨"Super", [⟨"Token", "keyword"⟩, ⟨"Token", "method"⟩]⟩,
    ⟨"This", [⟨"Token", "keyword"⟩]⟩,
    ⟨"Unary", [⟨"Token", "operator"⟩, ⟨"Expr", "right"⟩]⟩,
    ⟨"Variable", [⟨"Token", "name"⟩]⟩
  ]

/-- The statement nodes. -/
def stmtFamily : Family where
  name := "stmt"
  variants := [
    ⟨"Block", [⟨"List<Stmt>", "statements"⟩]⟩,
    ⟨"Class", [⟨"Token", "name"⟩, ⟨"Expr.Variable", "superclass"⟩,
      ⟨"List<Stmt.Function>", "methods"⟩]⟩,
    ⟨"Expression", [⟨"Expr", "expression"⟩]⟩,
    ⟨"Function", [⟨"Token", "name"⟩, ⟨"List<Token>", "params"⟩, ⟨"List<Stmt>", "body"⟩]⟩,
    ⟨"If", [⟨"Expr", "condition"⟩, ⟨"Stmt", "thenBranch"⟩, ⟨"Stmt", "elseBranch"⟩]⟩,
    ⟨"Print", [⟨"Expr", "expression"⟩]⟩,
    ⟨"Return", [⟨"Token", "keyword"⟩, ⟨"Expr", "value"⟩]⟩,
    ⟨"Var", [⟨"Token", "name"⟩, ⟨"Expr", "initializer"⟩]⟩,
    ⟨"While", [⟨"Expr", "condition"⟩, ⟨"Stmt", "body"⟩]⟩
  ]

/-- Every family the generator knows, in generation order. -/
def builtinFamilies : List Family := [exprFamily, stmtFamily]

/-- The names of the base types.  A field of a base type is an interface handle
rather than a record. -/
def baseTypeNames : List String := ["expr", "stmt"]

/-- The built-in family of that name, in any case. -/
def Family.builtin? (name : String) : Option Family :=
  builtinFamilies.find? (fun f => Text.sameLetters f.name name)

def isBaseType (name : String) : Bool :=
  baseTypeNames.any (fun b => Text.sameLetters b name)

theorem baseTypeNames_eq : baseTypeNames = builtinFamilies.map Family.name := rfl

theorem isBaseType_iff (name : String) :
    isBaseType name = true ↔ ∃ f, Family.builtin? name = some f := by
  rw [isBaseType, baseTypeNames_eq, List.any_map, ← Option.isSome_iff_exists, Family.builtin?,
    List.isSome_find?]
  rfl

end NodeGen
