/-
What the text of a family says.

A text is read back into its package, its generator and the family that it was
generated from, up to how descriptors are written.  So two families have one text
exactly if they are alike up to that.
-/
import Mathlib.Data.List.Forall2
import NodeGen.Proofs.Generator.Dispatch

namespace NodeGen

open GoSource

/-! ## Families alike -/

def Field.Alike (a b : Field) : Prop :=
  a.name = b.name ∧ FieldType.parse a.type = FieldType.parse b.type

def Variant.Alike (v w : Variant) : Prop :=
  v.name = w.name ∧ List.Forall₂ Field.Alike v.fields w.fields

/-- Families with the same names in the same order and fields of the same types. -/
def Family.Alike (f g : Family) : Prop :=
  f.name = g.name ∧ List.Forall₂ Variant.Alike f.variants g.variants

instance : DecidableRel Field.Alike := fun a b =>
  inferInstanceAs (Decidable (a.name = b.name ∧ FieldType.parse a.type = FieldType.parse b.type))

instance : DecidableRel Variant.Alike := fun v w =>
  inferInstanceAs (Decidable (v.name = w.name ∧ List.Forall₂ Field.Alike v.fields w.fields))

instance : DecidableRel Family.Alike := fun f g =>
  inferInstanceAs
    (Decidable (f.name = g.name ∧ List.Forall₂ Variant.Alike f.variants g.variants))

/-! ## Reading -/

structure TypedVariant where
  name : String
  fields : List TypedField

/-- What the file of a family says. -/
structure FamilyFile where
  package : String
  generator : String
  family : String
  variants : List TypedVariant

def TypedField.ofBinding (b : Binding) : TypedField := ⟨b.name, FieldType.ofText b.type.toList⟩

/-- Each variant has one struct. -/
def TypedVariant.ofDeclaration? : Declaration → Option TypedVariant
  | .struct name fields => some ⟨name, fields.map TypedField.ofBinding⟩
  | _ => none

def FamilyFile.read (text : String) : Option FamilyFile := do
  let file ← SourceFile.read text
  match interfacesOf file.declarations with
  | [_, (visitor, _)] => do
    let family ← visitor.toList.dropSuffix? "Visitor".toList
    some ⟨file.package, file.generator, String.ofList family,
      file.declarations.filterMap TypedVariant.ofDeclaration?⟩
  | _ => none

/-! ## Lowered variants -/

def Field.LowersTo (a : Field) (typed : TypedField) : Prop :=
  typed.name = a.name ∧ FieldType.parse a.type = .ok typed.type

def Variant.LowersTo (v : Variant) (typed : TypedVariant) : Prop :=
  typed.name = v.name ∧ List.Forall₂ Field.LowersTo v.fields typed.fields

def Variant.lowered (v : Variant) : TypedVariant := ⟨v.name, v.typed⟩

theorem Variant.lowersTo_lowered {v : Variant} (h : ∀ a ∈ v.fields, a.Translates) :
    v.LowersTo v.lowered := by
  refine ⟨rfl, ?_⟩
  show List.Forall₂ Field.LowersTo v.fields (v.fields.filterMap Field.typed?)
  -- The induction is on the fields, whatever variant they belong to.
  generalize v.fields = fields at h
  induction fields with
  | nil => exact .nil
  | cons a rest ih =>
    obtain ⟨t, ht⟩ := h a List.mem_cons_self
    rw [List.filterMap_cons_some (Field.typed?_of_parse ht)]
    exact .cons ⟨rfl, ht⟩ (ih fun b hb => h b (List.mem_cons_of_mem a hb))

theorem Family.lowersTo_lowered {f : Family} (h : f.Translates) :
    List.Forall₂ Variant.LowersTo f.variants (f.variants.map Variant.lowered) := by
  rw [List.forall₂_map_right_iff, List.forall₂_same]
  exact fun v hv => Variant.lowersTo_lowered (h v hv)

/-- Lists that lower to the same are alike. -/
theorem forall₂_of_lowered {α β : Type} {Lowers : α → β → Prop} {Alike : α → α → Prop}
    (hone : ∀ a a' b, Lowers a b → Lowers a' b → Alike a a') {l l' : List α} {m : List β}
    (hl : List.Forall₂ Lowers l m) (hl' : List.Forall₂ Lowers l' m) : List.Forall₂ Alike l l' := by
  induction hl generalizing l' with
  | nil =>
    cases hl'
    exact .nil
  | cons hab _ ih =>
    cases hl' with
    | cons hab' hrest' => exact .cons (hone _ _ _ hab hab') (ih hrest')

theorem Variant.alike_of_lowersTo {v w : Variant} {typed : TypedVariant} (hv : v.LowersTo typed)
    (hw : w.LowersTo typed) : v.Alike w := by
  refine ⟨hv.1.symm.trans hw.1, forall₂_of_lowered ?_ hv.2 hw.2⟩
  rintro a b t ⟨hname, hparse⟩ ⟨hname', hparse'⟩
  exact ⟨hname.symm.trans hname', hparse.trans hparse'.symm⟩

theorem map_eq_of_forall₂ {α β γ : Type} {R : α → β → Prop} {f : α → γ} {g : β → γ}
    (h : ∀ a b, R a b → f a = g b) {l : List α} {m : List β} (hl : List.Forall₂ R l m) :
    l.map f = m.map g := by
  induction hl with
  | nil => rfl
  | cons hab _ ih => rw [List.map_cons, List.map_cons, h _ _ hab, ih]

def Variant.fieldNames (v : Variant) : List String := v.fields.map Field.name

/-- The fields of the struct, which are the parameters of its constructor. -/
def Variant.bindings (v : Variant) : List Binding := v.typed.map TypedField.binding

theorem Variant.map_name_bindings {v : Variant} (h : ∀ a ∈ v.fields, a.Translates) :
    v.bindings.map Binding.name = v.fieldNames := by
  rw [Variant.bindings, List.map_map]
  exact (map_eq_of_forall₂ (fun _ _ hab => hab.1.symm) (Variant.lowersTo_lowered h).2).symm

theorem Variant.Alike.lowered {v w : Variant} (h : v.Alike w) : v.lowered = w.lowered := by
  have htyped : v.fields.map Field.typed? = w.fields.map Field.typed? :=
    map_eq_of_forall₂ (fun a b hab => by rw [Field.typed?, Field.typed?, hab.1, hab.2]) h.2
  have hfields : v.typed = w.typed := by
    have hids := congrArg (List.filterMap id) htyped
    rwa [List.filterMap_map, List.filterMap_map] at hids
  rw [Variant.lowered, Variant.lowered, h.1, hfields]

/-! ## Families and their texts -/

namespace Family

theorem Alike.declarations {f g : Family} (h : f.Alike g) : f.declarations = g.declarations := by
  obtain ⟨hname, hvariants⟩ := h
  have hbase : f.baseName = g.baseName := congrArg Text.capitalize hname
  have hdispatch : f.dispatch = g.dispatch := by
    rw [Family.dispatch, Family.dispatch, visitorName, visitorName, hname]
  have hmethod {v w : Variant} (hvw : v.Alike w) : f.visitMethod v = g.visitMethod w := by
    rw [visitMethod, visitMethod, hvw.1, hbase]
  have hvisits : f.variants.map f.visitSignature = g.variants.map g.visitSignature := by
    refine map_eq_of_forall₂ ?_ hvariants
    intro v w hvw
    rw [Family.visitSignature, Family.visitSignature, hmethod hvw, hname, hvw.1]
  have hnodes : f.variants.map (fun v => f.nodeDeclarations v v.typed) =
      g.variants.map (fun w => g.nodeDeclarations w w.typed) := by
    refine map_eq_of_forall₂ ?_ hvariants
    intro v w hvw
    have htyped : v.typed = w.typed := congrArg TypedVariant.fields hvw.lowered
    simp only [Family.nodeDeclarations, structDeclaration, constructor, acceptMethod, htyped,
      hvw.1, hname, hmethod hvw, hdispatch]
  rw [Family.declarations, Family.declarations, interfaces, interfaces, baseInterface,
    baseInterface, visitorInterface, visitorInterface, hbase, hdispatch, hvisits, visitorName,
    visitorName, hname, List.flatMap_def, List.flatMap_def, hnodes]

def file (f : Family) (config : Config) : FamilyFile :=
  ⟨config.package, config.generator, f.name, f.variants.map Variant.lowered⟩

theorem ofBinding_typed (v : Variant) :
    (v.typed.map TypedField.binding).map TypedField.ofBinding = v.typed := by
  rw [List.map_map]
  conv_rhs => rw [← List.map_id v.typed]
  refine List.map_congr_left ?_
  intro typed htyped
  obtain ⟨a, -, -, hparse⟩ := Field.mem_typed htyped
  show TypedField.mk typed.name (FieldType.ofText typed.type.render.toList) = typed
  rw [FieldType.ofText_render (FieldType.printable_of_parse hparse)]

theorem variants_declarations (f : Family) :
    f.declarations.filterMap TypedVariant.ofDeclaration? = f.variants.map Variant.lowered := by
  have hnode (v : Variant) : (f.nodeDeclarations v v.typed).filterMap
      TypedVariant.ofDeclaration? = [v.lowered] := by
    show [TypedVariant.mk v.name ((v.typed.map TypedField.binding).map TypedField.ofBinding)] = _
    rw [ofBinding_typed]
    rfl
  have hinterfaces : f.interfaces.filterMap TypedVariant.ofDeclaration? = [] := rfl
  rw [Family.declarations, List.filterMap_append, hinterfaces, List.nil_append,
    List.filterMap_flatMap]
  simp only [hnode, List.map_eq_flatMap]

theorem read_text {f : Family} (h : f.Named) {config : Config}
    (hpackage : '\n' ∉ config.package.toList) (hgenerator : '\n' ∉ config.generator.toList) :
    FamilyFile.read (withPreamble config.generator config.package (renderAll f.declarations)) =
      some (f.file config) := by
  have hname : f.visitorName.toList.dropSuffix? "Visitor".toList = some f.name.toList := by
    rw [visitorName, String.toList_append]
    exact dropSuffix?_append _ _
  rw [FamilyFile.read, SourceFile.read_withPreamble hgenerator hpackage h.declarations]
  simp only [Option.bind_eq_bind, Option.bind_some, f.interfacesOf_declarations, hname,
    f.variants_declarations, String.ofList_toList]
  rfl

theorem alike_of_file {f g : Family} {c d : Config} (hf : f.Translates) (hg : g.Translates)
    (h : f.file c = g.file d) : f.Alike g := by
  have hvariants : f.variants.map Variant.lowered = g.variants.map Variant.lowered :=
    congrArg FamilyFile.variants h
  have hlowersF := lowersTo_lowered hf
  have hlowersG := lowersTo_lowered hg
  rw [← hvariants] at hlowersG
  refine ⟨congrArg FamilyFile.family h, forall₂_of_lowered ?_ hlowersF hlowersG⟩
  intro v w typed hv hw
  exact Variant.alike_of_lowersTo hv hw

end Family

/-- The text of a family is read back into what it was generated from, and two texts
are equal exactly if that is. -/
theorem Generation.familyText_faithful {f g : Family} {c d : Config} (hf : f.Named)
    (hg : g.Named) (hft : f.Translates) (hgt : g.Translates)
    (hcp : '\n' ∉ c.package.toList) (hcg : '\n' ∉ c.generator.toList)
    (hdp : '\n' ∉ d.package.toList) (hdg : '\n' ∉ d.generator.toList) :
    ∃ s t file, (familyText f c).collect.1 = .ok s ∧ (familyText g d).collect.1 = .ok t ∧
      FamilyFile.read s = some file ∧ file.package = c.package ∧ file.generator = c.generator ∧
      file.family = f.name ∧ List.Forall₂ Variant.LowersTo f.variants file.variants ∧
      (s = t ↔ c.package = d.package ∧ c.generator = d.generator ∧ f.Alike g) := by
  refine ⟨_, _, f.file c, congrArg Prod.fst (familyText_gives hft c).collect,
    congrArg Prod.fst (familyText_gives hgt d).collect, Family.read_text hf hcp hcg, rfl, rfl, rfl,
    Family.lowersTo_lowered hft, ?_⟩
  constructor
  · intro heq
    have hread := Family.read_text hf hcp hcg
    rw [heq, Family.read_text hg hdp hdg] at hread
    have hfile : f.file c = g.file d := (Option.some.inj hread).symm
    exact ⟨congrArg FamilyFile.package hfile, congrArg FamilyFile.generator hfile,
      Family.alike_of_file hft hgt hfile⟩
  · rintro ⟨hpackage, hgenerator, halike⟩
    rw [hpackage, hgenerator, halike.declarations]

/-- A family of one variant, whose descriptors may be written in more than one way. -/
def Family.loop (condition body : String) : Family :=
  ⟨"shape", [⟨"Loop", [⟨condition, "condition"⟩, ⟨body, "body"⟩]⟩]⟩

theorem Generation.loopText_faithful :
    let f := Family.loop "Expr" "List<Step>"
    let g := Family.loop "ast.EXPR" " List < run.Step > "
    f.Named ∧ g.Named ∧ f.Translates ∧ g.Translates ∧ '\n' ∉ defaultPackage.toList ∧
      '\n' ∉ generatorName.toList ∧
      ∃ s, (familyText f (Config.default "/work")).collect.1 = .ok s ∧
        (familyText g (Config.default "/home")).collect.1 = .ok s := by
  intro f g
  have hf : f.Named := by decide
  have hg : g.Named := by decide
  have hft : f.Translates := by decide
  have hgt : g.Translates := by decide
  have hpackage : '\n' ∉ defaultPackage.toList := by decide
  have hgenerator : '\n' ∉ generatorName.toList := by decide
  have halike : f.Alike g := by decide +kernel
  obtain ⟨s, t, -, hs, ht, -, -, -, -, -, hiff⟩ := familyText_faithful hf hg hft hgt
    (c := Config.default "/work") (d := Config.default "/home") hpackage hgenerator hpackage
    hgenerator
  obtain rfl := hiff.mpr ⟨rfl, rfl, halike⟩
  exact ⟨hf, hg, hft, hgt, hpackage, hgenerator, s, hs, ht⟩

end NodeGen
