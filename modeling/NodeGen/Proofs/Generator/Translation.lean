/-
Families whose descriptors translate.

The generator then gives one list of declarations, whatever was logged before.
Its declarations are well-formed if the names of the family are identifiers, so
`GoSource.readAll` reads them back.
-/
import NodeGen.Generator.Basic
import NodeGen.Proofs.GoSource.Reader

namespace NodeGen

open GoSource

/-! ## Results of generations -/

/-- The generation has this result, and adds these records to any log. -/
def Generation.Gives {α : Type} (x : Generation α) (result : Except GenerateError α)
    (records : List Record) : Prop :=
  ∀ log, x.run.run log = (result, log ++ records)

namespace Generation

variable {α β : Type}

theorem Gives.collect {x : Generation α} {result : Except GenerateError α}
    {records : List Record} (h : x.Gives result records) : x.collect = (result, records) :=
  h []

theorem gives_pure (a : α) : (pure a : Generation α).Gives (.ok a) [] := by
  intro log
  rw [List.append_nil]
  rfl

theorem gives_report (level : Level) (origin : Origin) (message : String) :
    Gives (liftM (report level origin message)) (.ok ()) [⟨level, origin, message⟩] :=
  fun _ => rfl

theorem Gives.bind {x : Generation α} {f : α → Generation β} {a : α}
    {result : Except GenerateError β} {before after : List Record}
    (hx : x.Gives (.ok a) before) (hf : (f a).Gives result after) :
    (x >>= f).Gives result (before ++ after) := by
  intro log
  have hrun : (x >>= f).run.run log = (f a).run.run (log ++ before) := by
    rw [ExceptT.run_bind, StateT.run_bind, hx log]
    rfl
  rw [hrun, hf, List.append_assoc]

theorem Gives.bind_pure {x : Generation α} {a : α} {records : List Record}
    (hx : x.Gives (.ok a) records) (f : α → β) :
    (do let a ← x; pure (f a) : Generation β).Gives (.ok (f a)) records := by
  have hresult := hx.bind (f := fun a => pure (f a)) (gives_pure (f a))
  rwa [List.append_nil] at hresult

end Generation

/-! ## Lowering -/

def Field.Translates (a : Field) : Prop := ∃ t, FieldType.parse a.type = .ok t

theorem Field.translates_iff {a : Field} :
    a.Translates ↔ (FieldType.parse a.type).toOption.isSome = true := by
  unfold Field.Translates
  cases FieldType.parse a.type with
  | error e => simp [Except.toOption]
  | ok t => simp [Except.toOption]

instance (a : Field) : Decidable a.Translates := decidable_of_iff _ Field.translates_iff.symm

/-- The field with its Go type, if its descriptor has one. -/
def Field.typed? (a : Field) : Option TypedField :=
  (FieldType.parse a.type).toOption.map (TypedField.mk a.name)

/-- The record of a descriptor that translates. -/
def Field.records (a : Field) : List Record :=
  match FieldType.parse a.type with
  | .ok t =>
    [⟨.debug, .descriptor, "translated descriptor `" ++ a.type ++ "` to `" ++ t.render ++ "`"⟩]
  | .error _ => []

def Variant.typed (v : Variant) : List TypedField := v.fields.filterMap Field.typed?

def Variant.records (v : Variant) : List Record := v.fields.flatMap Field.records

namespace Family

def Translates (f : Family) : Prop := ∀ v ∈ f.variants, ∀ a ∈ v.fields, a.Translates

instance (f : Family) : Decidable f.Translates :=
  inferInstanceAs (Decidable (∀ v ∈ f.variants, ∀ a ∈ v.fields, a.Translates))

def records (f : Family) : List Record :=
  ⟨.info, .generator,
    "generating " ++ toString f.variants.length ++ " variants for family `" ++ f.name ++ "`"⟩ ::
    f.variants.flatMap Variant.records

def declarations (f : Family) : List Declaration :=
  f.interfaces ++ f.variants.flatMap fun v => f.nodeDeclarations v v.typed

end Family

theorem Field.typed?_of_parse {a : Field} {t : FieldType} (h : FieldType.parse a.type = .ok t) :
    a.typed? = some ⟨a.name, t⟩ := by
  rw [Field.typed?, h]
  rfl

theorem Field.mem_typed {v : Variant} {typed : TypedField} (h : typed ∈ v.typed) :
    ∃ a ∈ v.fields, a.name = typed.name ∧ FieldType.parse a.type = .ok typed.type := by
  obtain ⟨a, ha, htyped⟩ := List.mem_filterMap.mp h
  cases hparse : FieldType.parse a.type with
  | error e =>
    rw [Field.typed?, hparse] at htyped
    cases htyped
  | ok t =>
    rw [Field.typed?_of_parse hparse] at htyped
    cases htyped
    exact ⟨a, ha, rfl, hparse⟩

namespace Generation

theorem lowerField_gives (f : Family) (v : Variant) {a : Field} {t : FieldType}
    (h : FieldType.parse a.type = .ok t) :
    (lowerField f v a).Gives (.ok ⟨a.name, t⟩) a.records := by
  have hlogged : Gives (liftM (FieldType.parseLogged a.type)) (.ok (.ok t)) a.records := by
    intro log
    rw [Field.records, FieldType.parseLogged, h]
    rfl
  rw [lowerField, ← List.append_nil a.records]
  exact hlogged.bind (gives_pure _)

theorem lowerFields_gives (f : Family) (v : Variant) {fields : List Field}
    (h : ∀ a ∈ fields, a.Translates) :
    (lowerFields f v fields).Gives (.ok (fields.filterMap Field.typed?))
      (fields.flatMap Field.records) := by
  induction fields with
  | nil => exact gives_pure []
  | cons a rest ih =>
    obtain ⟨t, ht⟩ := h a List.mem_cons_self
    have hrest := ih fun b hb => h b (List.mem_cons_of_mem a hb)
    rw [lowerFields, List.filterMap_cons_some (Field.typed?_of_parse ht), List.flatMap_cons]
    exact (lowerField_gives f v ht).bind (hrest.bind_pure _)

theorem variant_gives (f : Family) {v : Variant} (h : ∀ a ∈ v.fields, a.Translates) :
    (variant f v).Gives (.ok (f.nodeDeclarations v v.typed)) v.records := by
  rw [variant]
  exact (lowerFields_gives f v h).bind_pure _

theorem variant_collect (f : Family) {v : Variant} (h : ∀ a ∈ v.fields, a.Translates) :
    (variant f v).collect.1 = .ok (f.nodeDeclarations v v.typed) :=
  congrArg Prod.fst (variant_gives f h).collect

theorem variants_gives (f : Family) {vs : List Variant}
    (h : ∀ v ∈ vs, ∀ a ∈ v.fields, a.Translates) :
    (variants f vs).Gives (.ok (vs.flatMap fun v => f.nodeDeclarations v v.typed))
      (vs.flatMap Variant.records) := by
  induction vs with
  | nil => exact gives_pure []
  | cons v rest ih =>
    have hrest := ih fun w hw => h w (List.mem_cons_of_mem v hw)
    rw [variants, List.flatMap_cons, List.flatMap_cons]
    exact (variant_gives f (h v List.mem_cons_self)).bind (hrest.bind_pure _)

theorem family_gives {f : Family} (h : f.Translates) :
    (family f).Gives (.ok f.declarations) f.records := by
  rw [family]
  exact (gives_report _ _ _).bind ((variants_gives f h).bind_pure _)

theorem familyText_gives {f : Family} (h : f.Translates) (config : Config) :
    (familyText f config).Gives
      (.ok (withPreamble config.generator config.package (renderAll f.declarations)))
      f.records := by
  rw [familyText]
  exact (family_gives h).bind_pure _

/-- The file of a family. -/
def generated (config : Config) (f : Family) : GeneratedFile where
  family := f.name
  path := Path.join config.outDir f.fileName
  text := withPreamble config.generator config.package (renderAll f.declarations)

theorem files_gives (config : Config) {fs : List Family} (h : ∀ f ∈ fs, f.Translates) :
    (files config fs).Gives (.ok (fs.map (generated config))) (fs.flatMap Family.records) := by
  induction fs with
  | nil => exact gives_pure []
  | cons f rest ih =>
    have hfile : (file f config).Gives (.ok (generated config f)) f.records :=
      (familyText_gives (h f List.mem_cons_self) config).bind_pure _
    have hrest := ih fun g hg => h g (List.mem_cons_of_mem f hg)
    rw [files, List.map_cons, List.flatMap_cons]
    exact hfile.bind (hrest.bind_pure _)

end Generation

/-! ## Names -/

/-- Every name of the schema is an identifier. -/
structure Family.Named (f : Family) : Prop where
  family : isIdentifier f.name = true
  variants : ∀ v ∈ f.variants, isIdentifier v.name = true
  fields : ∀ v ∈ f.variants, ∀ a ∈ v.fields, isIdentifier a.name = true

theorem Family.named_iff {f : Family} :
    f.Named ↔ isIdentifier f.name = true ∧ (∀ v ∈ f.variants, isIdentifier v.name = true) ∧
      ∀ v ∈ f.variants, ∀ a ∈ v.fields, isIdentifier a.name = true :=
  ⟨fun h => ⟨h.family, h.variants, h.fields⟩, fun h => ⟨h.1, h.2.1, h.2.2⟩⟩

instance (f : Family) : Decidable f.Named := decidable_of_iff _ Family.named_iff.symm

theorem named_builtin : ∀ f ∈ builtinFamilies, f.Named := by decide

theorem translates_builtin : ∀ f ∈ builtinFamilies, f.Translates := by decide

/-- The built-in families are generated in any configuration. -/
theorem Generation.all_gives (config : Config) :
    (Generation.all config).Gives (.ok (builtinFamilies.map (generated config)))
      (builtinFamilies.flatMap Family.records) :=
  files_gives config translates_builtin

theorem isIdentifier_append {s t : String} (hs : isIdentifier s = true)
    (ht : ∀ c ∈ t.toList, isWordChar c = true) : isIdentifier (s ++ t) = true := by
  obtain ⟨c, rest, hcons, hc, hrest⟩ := isIdentifier_cons hs
  have htext : (s ++ t).toList = c :: (rest ++ t.toList) := by
    rw [String.toList_append, hcons, List.cons_append]
  have hall : (rest ++ t.toList).all isWordChar = true := by
    rw [List.all_eq_true]
    intro d hd
    rcases List.mem_append.mp hd with hd | hd
    · exact hrest d hd
    · exact ht d hd
  rw [isIdentifier, htext]
  exact Bool.and_eq_true_iff.mpr ⟨hc, hall⟩

theorem isWordStart_toUpper {c : Char} (h : isWordStart c = true) :
    isWordStart c.toUpper = true := by
  have hascii : ∀ n < 0x80, isWordStart (Char.ofNat n) = true →
      isWordStart (Char.ofNat n).toUpper = true := by decide
  have hc := hascii c.toNat (isAscii_of_isWordChar (isWordChar_of_isWordStart h))
  rw [Char.ofNat_toNat] at hc
  exact hc h

theorem isIdentifier_capitalize {s : String} (h : isIdentifier s = true) :
    isIdentifier (Text.capitalize s) = true := by
  obtain ⟨c, rest, hcons, hc, hrest⟩ := isIdentifier_cons h
  have hascii := isAscii_of_isWordChar (isWordChar_of_isWordStart hc)
  have htext : (Text.capitalize s).toList = c.toUpper :: rest := by
    rw [Text.toList_capitalize hcons, Text.upper_ascii hascii]
    rfl
  rw [isIdentifier, htext]
  exact Bool.and_eq_true_iff.mpr ⟨isWordStart_toUpper hc, List.all_eq_true.mpr hrest⟩

namespace Family

variable {f : Family}

theorem Named.visitMethod (h : f.Named) {v : Variant} (hv : v ∈ f.variants) :
    isIdentifier (f.visitMethod v) = true := by
  have hbase := isWordChar_of_isIdentifier (isIdentifier_capitalize h.family)
  have hvisit : isIdentifier ("visit" ++ v.name) = true :=
    isIdentifier_append (by decide) (isWordChar_of_isIdentifier (h.variants v hv))
  exact isIdentifier_append hvisit hbase

theorem Named.isWord_pointer (h : f.Named) {v : Variant} (hv : v ∈ f.variants) :
    IsWord ("*" ++ v.name) :=
  isWord_append (isWord_of_all (by decide)) (isWord_of_isIdentifier (h.variants v hv))

theorem newline_not_mem_dispatchResult : '\n' ∉ dispatchResult.toList := by decide

theorem Named.dispatch (h : f.Named) : f.dispatch.WellFormed where
  name := by
    show isIdentifier dispatchName = true
    decide
  parameters := by
    intro b hb
    obtain rfl := List.mem_singleton.mp hb
    have htype : IsWord f.visitorName :=
      isWord_append (isWord_of_isIdentifier h.family) (isWord_of_all (by decide))
    have hname : isIdentifier "visitor" = true := by decide
    exact ⟨hname, htype⟩
  result := newline_not_mem_dispatchResult

theorem Named.visitSignature (h : f.Named) {v : Variant} (hv : v ∈ f.variants) :
    (f.visitSignature v).WellFormed where
  name := h.visitMethod hv
  parameters := by
    intro b hb
    obtain rfl := List.mem_singleton.mp hb
    exact ⟨h.family, h.isWord_pointer hv⟩
  result := newline_not_mem_dispatchResult

theorem Named.binding (h : f.Named) {v : Variant} (hv : v ∈ f.variants) :
    ∀ b ∈ v.typed.map TypedField.binding, b.WellFormed := by
  intro b hb
  obtain ⟨typed, htyped, rfl⟩ := List.mem_map.mp hb
  obtain ⟨a, ha, hname, hparse⟩ := Field.mem_typed htyped
  have hfield : isIdentifier typed.name = true := hname ▸ h.fields v hv a ha
  exact ⟨hfield, FieldType.isWord_render (FieldType.printable_of_parse hparse)⟩

theorem Named.nodeDeclarations (h : f.Named) {v : Variant} (hv : v ∈ f.variants) :
    ∀ d ∈ f.nodeDeclarations v v.typed, d.WellFormed := by
  have hfamily := isWord_of_isIdentifier h.family
  have hvariant := isWord_of_isIdentifier (h.variants v hv)
  have hstruct : (structDeclaration v v.typed).WellFormed := ⟨hvariant, h.binding hv⟩
  have hconstructor : (f.constructor v v.typed).WellFormed := by
    refine ⟨⟨isIdentifier_append (by decide) (isWordChar_of_isIdentifier (h.variants v hv)),
      h.binding hv, not_mem_of_isWord (h.isWord_pointer hv) (by decide)⟩, ?_⟩
    intro s hs
    rcases List.mem_append.mp hs with hs | hs
    · rcases List.mem_cons.mp hs with rfl | hs
      · exact ⟨hfamily, hvariant⟩
      · obtain ⟨typed, htyped, rfl⟩ := List.mem_map.mp hs
        have hfield := isWord_of_isIdentifier
          (h.binding hv typed.binding (List.mem_map_of_mem htyped)).1
        exact ⟨hfamily, hfield, hfield⟩
    · obtain rfl := List.mem_singleton.mp hs
      exact hfamily
  have haccept : (f.acceptMethod v).WellFormed := by
    refine ⟨⟨h.family, h.isWord_pointer hv⟩, h.dispatch, ?_⟩
    intro s hs
    obtain rfl := List.mem_singleton.mp hs
    exact ⟨isWord_of_all (by decide), isWord_of_isIdentifier (h.visitMethod hv), hfamily⟩
  intro d hd
  simp only [Family.nodeDeclarations, List.mem_cons, List.not_mem_nil, or_false] at hd
  rcases hd with rfl | rfl | rfl
  · exact hstruct
  · exact hconstructor
  · exact haccept

theorem Named.declarations (h : f.Named) : ∀ d ∈ f.declarations, d.WellFormed := by
  have hbase : f.baseInterface.WellFormed := by
    refine ⟨isWord_of_isIdentifier (isIdentifier_capitalize h.family), ?_⟩
    intro s hs
    obtain rfl := List.mem_singleton.mp hs
    exact h.dispatch
  have hvisitor : f.visitorInterface.WellFormed := by
    refine ⟨isWord_append (isWord_of_isIdentifier h.family) (isWord_of_all (by decide)), ?_⟩
    intro s hs
    obtain ⟨v, hv, rfl⟩ := List.mem_map.mp hs
    exact h.visitSignature hv
  intro d hd
  rcases List.mem_append.mp hd with hd | hd
  · simp only [interfaces, List.mem_cons, List.not_mem_nil, or_false] at hd
    rcases hd with rfl | rfl
    · exact hbase
    · exact hvisitor
  · obtain ⟨v, hv, hd⟩ := List.mem_flatMap.mp hd
    exact h.nodeDeclarations hv d hd

end Family
end NodeGen
