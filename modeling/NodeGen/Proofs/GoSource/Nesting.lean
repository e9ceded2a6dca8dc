/-
Types of names inside lists.

A descriptor is a name inside some number of lists, and its type depends on the number
and the name alone.  `FieldType.nested` is that type and `FieldType.nestedText` its
text.  Two rules meet in them.  A field holds both the empty interface and the
interface of a family by value, a list only the latter.
-/
import NodeGen.Proofs.GoSource.Types

namespace NodeGen

/-! ## Names -/

/-- The name is that of a base type, in any case. -/
def IsBaseName (x : String) : Prop := Text.lowerAscii x = "expr" ∨ Text.lowerAscii x = "stmt"

instance (x : String) : Decidable (IsBaseName x) :=
  inferInstanceAs (Decidable (Text.lowerAscii x = "expr" ∨ Text.lowerAscii x = "stmt"))

/-- How a field holds the type of the name. -/
def fieldMark (x : String) : Ownership :=
  if x = "Object" ∨ IsBaseName x then .value else .owned

/-- How a list holds elements of the type of the name. -/
def elementMark (x : String) : Ownership := if IsBaseName x then .value else .owned

def leafText (x : String) : String :=
  if x = "Object" then "interface\x7b\x7d"
  else if Text.lowerAscii x = "expr" then "Expr"
  else if Text.lowerAscii x = "stmt" then "Stmt"
  else x

namespace GoType

def leaf (x : String) : GoType :=
  if x = "Object" then dynamic
  else if Text.lowerAscii x = "expr" then base "Expr"
  else if Text.lowerAscii x = "stmt" then base "Stmt"
  else named x

theorem isBaseType_iff_isBaseName (x : String) : isBaseType x = true ↔ IsBaseName x := by
  have hexpr : Text.lowerAscii "expr" = "expr" := by decide
  have hstmt : Text.lowerAscii "stmt" = "stmt" := by decide
  simp only [isBaseType, baseTypeNames, List.any_cons, List.any_nil, Bool.or_false,
    Bool.or_eq_true, Text.sameLetters_iff, hexpr, hstmt, IsBaseName]
  rw [eq_comm, @eq_comm _ "stmt"]

theorem ofName_eq_leaf (x : String) : ofName x = leaf x := by
  unfold ofName leaf Descriptor.dynamicName
  split
  · rfl
  by_cases hexpr : Text.lowerAscii x = "expr"
  · rw [if_pos ((isBaseType_iff_isBaseName x).mpr (.inl hexpr)), if_pos hexpr, hexpr]
    rfl
  by_cases hstmt : Text.lowerAscii x = "stmt"
  · rw [if_pos ((isBaseType_iff_isBaseName x).mpr (.inr hstmt)), if_neg hexpr, if_pos hstmt,
      hstmt]
    rfl
  · have hbase : ¬ isBaseType x = true := by
      rw [isBaseType_iff_isBaseName]
      exact not_or.mpr ⟨hexpr, hstmt⟩
    rw [if_neg hbase, if_neg hexpr, if_neg hstmt]

theorem not_isBaseName_dynamic : ¬ IsBaseName "Object" := by decide

theorem fieldOwnership_leaf (x : String) : (leaf x).fieldOwnership = fieldMark x := by
  unfold leaf fieldMark IsBaseName
  split
  · rename_i h
    simp [h, fieldOwnership]
  split
  · rename_i h
    simp [h, fieldOwnership]
  split
  · rename_i h
    simp [h, fieldOwnership]
  · simp [*, fieldOwnership]

theorem elementOwnership_leaf (x : String) : (leaf x).elementOwnership = elementMark x := by
  unfold leaf elementMark
  split
  · rename_i h
    rw [h, if_neg not_isBaseName_dynamic]
    rfl
  split
  · rename_i h
    exact (if_pos (.inl h)).symm
  split
  · rename_i h
    exact (if_pos (.inr h)).symm
  · rename_i hexpr hstmt
    exact (if_neg (not_or.mpr ⟨hexpr, hstmt⟩)).symm

theorem render_leaf (x : String) : (leaf x).render = leafText x := by
  unfold leaf leafText
  split
  · rfl
  split
  · rfl
  split <;> rfl

/-! ## Lists -/

/-- The type of the name inside `n` lists. -/
def nested : Nat → String → GoType
  | 0, x => leaf x
  | 1, x => list (leaf x) (elementMark x)
  | n + 2, x => list (nested (n + 1) x) .owned

/-- Lists are held through a pointer everywhere. -/
theorem ownership_nested (n : Nat) (x : String) :
    (nested (n + 1) x).fieldOwnership = .owned ∧ (nested (n + 1) x).elementOwnership = .owned := by
  cases n <;> exact ⟨rfl, rfl⟩

theorem ofDescriptor_wrap (n : Nat) (q : Option String) (x : String) :
    ofDescriptor (.wrap n (.named q x)) = nested n x := by
  induction n with
  | zero => exact ofName_eq_leaf x
  | succ n ih =>
    have hlist : ofDescriptor (.wrap (n + 1) (.named q x)) =
        list (nested n x) (nested n x).elementOwnership := by
      rw [Descriptor.wrap, ofDescriptor, ih]
    rw [hlist]
    cases n with
    | zero => rw [nested, nested, elementOwnership_leaf]
    | succ n => rw [(ownership_nested n x).2, nested]

theorem render_nested (n : Nat) (x : String) :
    (nested (n + 1) x).render =
      String.join (List.replicate n "[]*") ++ "[]" ++ (elementMark x).render ++ leafText x := by
  induction n with
  | zero => simp [nested, render, render_leaf]
  | succ n ih =>
    have hmark : "[]" ++ Ownership.owned.render = "[]*" := rfl
    rw [nested, render, ih, hmark, List.replicate_succ, String.join_cons]
    simp only [String.append_assoc]

end GoType

/-! ## Fields -/

namespace FieldType

/-- The type of a field whose descriptor is the name inside `n` lists. -/
def nested (n : Nat) (x : String) : FieldType where
  type := GoType.nested n x
  ownership := if n = 0 then fieldMark x else .owned

def nestedText : Nat → String → String
  | 0, x => (fieldMark x).render ++ leafText x
  | n + 1, x =>
    "*" ++ String.join (List.replicate n "[]*") ++ "[]" ++ (elementMark x).render ++ leafText x

theorem ofDescriptor_wrap (n : Nat) (q : Option String) (x : String) :
    ofDescriptor (.wrap n (.named q x)) = nested n x := by
  rw [ofDescriptor, GoType.ofDescriptor_stripQualifiers, GoType.ofDescriptor_wrap, ofType, nested]
  congr 1
  cases n with
  | zero => exact GoType.fieldOwnership_leaf x
  | succ n => exact (GoType.ownership_nested n x).1

theorem render_nested (n : Nat) (x : String) : (nested n x).render = nestedText n x := by
  cases n with
  | zero => rw [render, nested, GoType.nested, GoType.render_leaf]; rfl
  | succ n =>
    rw [render, nested, GoType.render_nested, nestedText]
    simp only [String.append_assoc]
    rfl

/-- A text that parses stands for a type that only the number of its lists and its
innermost name decide.  The text of that type shows how the field and each of the
lists hold what they hold.  A text that does not parse stands for no type, for the
same reason. -/
theorem parse_wrap (src : String) :
    (∀ n q x, Descriptor.parse src = .ok (.wrap n (.named q x)) →
      parse src = .ok (nested n x) ∧ (nested n x).render = nestedText n x ∧
        ofText (nestedText n x).toList = nested n x) ∧
    ∀ e, Descriptor.parse src = .error e → parse src = .error e := by
  constructor
  · intro n q x h
    have hparse : parse src = .ok (nested n x) := by
      rw [parse, h, ← ofDescriptor_wrap n q x]
      rfl
    refine ⟨hparse, render_nested n x, ?_⟩
    rw [← render_nested]
    exact ofText_render (printable_of_parse hparse)
  · intro e h
    rw [parse, h]
    rfl

example : nestedText 3 "Object" = "*[]*[]*[]*interface\x7b\x7d" := by decide

end FieldType
end NodeGen
