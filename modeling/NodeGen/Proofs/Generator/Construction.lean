/-
Constructors of variants.

The parameters of a constructor are the fields of its struct.  Its variable is named after
the family and lives in the scope of the parameters, so a field of that name would be set
to the struct itself.  A constructor builds its struct from its arguments exactly if the
names of the fields are free of such uses.
-/
import NodeGen.Proofs.Generator.Faithful
import NodeGen.Proofs.GoSource.Execution

namespace NodeGen

open GoSource

/-- The names in the constructor of a variant mean what they should.  The variable and the
type have names, and no field goes by one of them or hides the allocator. -/
structure Family.FreeNames (f : Family) (v : Variant) : Prop where
  family : f.name ≠ blankName
  variant : v.name ≠ blankName ∧ v.name ≠ allocatorName
  fields : v.fieldNames.Disjoint [f.name, v.name, allocatorName, blankName]

theorem Family.freeNames_iff {f : Family} {v : Variant} :
    f.FreeNames v ↔ f.name ≠ blankName ∧ (v.name ≠ blankName ∧ v.name ≠ allocatorName) ∧
      ∀ n ∈ v.fieldNames, n ∉ [f.name, v.name, allocatorName, blankName] :=
  ⟨fun h => ⟨h.family, h.variant, h.fields⟩, fun h => ⟨h.1, h.2.1, h.2.2⟩⟩

instance (f : Family) (v : Variant) : Decidable (f.FreeNames v) :=
  decidable_of_iff _ Family.freeNames_iff.symm

theorem freeNames_builtin : ∀ f ∈ builtinFamilies, ∀ v ∈ f.variants, f.FreeNames v := by decide

namespace Family

variable (f : Family) (v : Variant)

def constructorBody : List Statement := buildBody f.name v.name (v.bindings.map Binding.name)

theorem constructor_typed :
    f.constructor v v.typed =
      .function ⟨"New" ++ v.name, v.bindings, "*" ++ v.name⟩ (f.constructorBody v) := by
  rw [constructor, constructorBody, buildBody, Variant.bindings, List.map_map, List.map_map]
  rfl

theorem structFields?_nodeDeclarations :
    structFields? (f.nodeDeclarations v v.typed) v.name = some (v.bindings.map Binding.name) := by
  have hstruct : Declaration.structFields? v.name (structDeclaration v v.typed) =
      some (v.bindings.map Binding.name) := if_pos rfl
  rw [structFields?, nodeDeclarations, List.findSome?_cons, hstruct]

theorem allocatorName_not_mem_iff :
    allocatorName ∉ (f.nodeDeclarations v v.typed).filterMap Declaration.name? ↔
      v.name ≠ allocatorName := by
  have hnames : (f.nodeDeclarations v v.typed).filterMap Declaration.name? =
    [v.name, "New" ++ v.name] := rfl
  have hconstructor : allocatorName ≠ "New" ++ v.name := by
    intro h
    have hchars := congrArg String.toList h
    rw [String.toList_append] at hchars
    cases hchars
  simp only [hnames, List.mem_cons, List.not_mem_nil, or_false, hconstructor]
  exact ne_comm

theorem constructor_builds_iff {v : Variant} (htranslates : ∀ a ∈ v.fields, a.Translates)
    (hdistinct : v.fieldNames.Nodup) {α : Type} {structs : List (Struct α)}
    {arguments : List (Value α)} (hlength : arguments.length = v.fields.length)
    (hfresh : .pointer structs.length ∉ arguments) :
    Builds (f.nodeDeclarations v v.typed) v.name v.bindings (f.constructorBody v) structs arguments ↔
      f.FreeNames v := by
  have hnames := Variant.map_name_bindings htranslates
  have hlengths : arguments.length = v.bindings.length := by
    rw [hlength, ← List.length_map Binding.name, hnames, Variant.fieldNames, List.length_map]
  rw [constructorBody,
    builds_iff (f.structFields?_nodeDeclarations v) (hnames ▸ hdistinct) hlengths hfresh, hnames,
    allocatorName_not_mem_iff]
  constructor
  · rintro ⟨hvariant, hfamily, hfields⟩
    exact ⟨hfamily, hvariant, hfields⟩
  · rintro ⟨hfamily, hvariant, hfields⟩
    exact ⟨hvariant, hfamily, hfields⟩

end Family

/-- The parameters of a constructor are the fields of its struct.  A call of it returns a
new struct that holds each argument in the field of its parameter, assigned once, exactly
if the names of the variant are free. -/
theorem Generation.variant_builds_iff {f : Family} {v : Variant}
    (htranslates : ∀ a ∈ v.fields, a.Translates) (hdistinct : v.fieldNames.Nodup) :
    ∃ ds typed body, (variant f v).collect.1 = .ok ds ∧
      List.Forall₂ Field.LowersTo v.fields typed ∧
      ds = [.struct v.name (typed.map TypedField.binding),
        .function ⟨"New" ++ v.name, typed.map TypedField.binding, "*" ++ v.name⟩ body,
        f.acceptMethod v] ∧
      (f.Named → v ∈ f.variants → readAll (renderAll ds) = some ds) ∧
      ∀ (α : Type) (structs : List (Struct α)) (arguments : List (Value α)),
        arguments.length = v.fields.length → .pointer structs.length ∉ arguments →
        (Builds ds v.name (typed.map TypedField.binding) body structs arguments ↔
          f.FreeNames v) := by
  refine ⟨f.nodeDeclarations v v.typed, v.typed, f.constructorBody v,
    variant_collect f htranslates, (Variant.lowersTo_lowered htranslates).2, ?_, ?_, ?_⟩
  · rw [Family.nodeDeclarations, f.constructor_typed]
    rfl
  · intro hnamed hv
    exact readAll_renderAll (hnamed.nodeDeclarations hv)
  · intro α structs arguments hlength hfresh
    exact f.constructor_builds_iff htranslates hdistinct hlength hfresh

theorem Generation.binaryVariant_builds :
    let left : Struct Nat := ⟨"Literal", ["value"], [("value", .given 1)]⟩
    let right : Struct Nat := ⟨"Literal", ["value"], [("value", .given 2)]⟩
    ∃ v ∈ exprFamily.variants, v.name = "Binary" ∧ (∀ a ∈ v.fields, a.Translates) ∧
      v.fieldNames.Nodup ∧ ∃ ds parameters body, (variant exprFamily v).collect.1 = .ok ds ∧
        readAll (renderAll ds) = some ds ∧
        Builds ds "Binary" parameters body [left, right] [.pointer 0, .given 3, .pointer 1] := by
  intro left right
  let v : Variant := ⟨"Binary", [⟨"Expr", "left"⟩, ⟨"Token", "operator"⟩, ⟨"Expr", "right"⟩]⟩
  have hmem : v ∈ exprFamily.variants := by decide
  have hfamily : exprFamily ∈ builtinFamilies := by decide
  have htranslates := translates_builtin exprFamily hfamily v hmem
  have hdistinct : v.fieldNames.Nodup := by decide
  obtain ⟨ds, typed, body, hds, -, -, hread, hbuilds⟩ :=
    variant_builds_iff (f := exprFamily) htranslates hdistinct
  exact ⟨v, hmem, rfl, htranslates, hdistinct, ds, typed.map TypedField.binding, body, hds,
    hread (named_builtin exprFamily hfamily) hmem,
    (hbuilds Nat [left, right] _ rfl (by decide)).mpr (freeNames_builtin _ hfamily v hmem)⟩

/-- A field that is named after the family holds the new struct in place of its argument. -/
theorem Generation.familyField_not_built :
    let v : Variant := ⟨"Grouping", [⟨"Expr", "expr"⟩]⟩
    let f : Family := ⟨"expr", [v]⟩
    f.Named ∧ f.Translates ∧ v.fieldNames.Nodup ∧
      ∃ ds parameters body, (variant f v).collect.1 = .ok ds ∧
        ds = [.struct "Grouping" parameters,
          .function ⟨"NewGrouping", parameters, "*Grouping"⟩ body, f.acceptMethod v] ∧
        call ds parameters body [] [.given 1] =
          some (.pointer 0, [⟨"Grouping", ["expr"], [("expr", .pointer 0)]⟩]) ∧
        ¬ Builds ds "Grouping" parameters body [] [.given 1] := by
  intro v f
  have htranslates : f.Translates := by decide
  have hv : ∀ a ∈ v.fields, a.Translates := htranslates v (List.mem_singleton_self v)
  have hdistinct : v.fieldNames.Nodup := by decide
  refine ⟨by decide, htranslates, hdistinct, f.nodeDeclarations v v.typed, v.bindings,
    f.constructorBody v, variant_collect f hv, by decide, by decide, ?_⟩
  intro hbuilds
  have hfresh : Value.pointer 0 ∉ [Value.given 1] := by decide
  have hfree := (f.constructor_builds_iff hv hdistinct rfl hfresh).mp hbuilds
  exact absurd hfree (by decide)

end NodeGen
