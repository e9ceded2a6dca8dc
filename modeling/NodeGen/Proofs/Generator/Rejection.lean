/-
The first descriptor that is rejected.

A generation goes through the variants of a family and through the fields of each of
them, and a descriptor that does not translate ends both loops.  The `slots` of a family
are its fields in that order, each with its variant, so the two loops are one loop over
the slots: the generation ends at the first slot that is rejected, and what it logged by
then is one record for each slot before.
-/
import Mathlib.Data.List.Forall2
import NodeGen.Proofs.Generator.Translation

namespace NodeGen

open GoSource

/-! ## Slots -/

/-- A field in the variant that it belongs to. -/
structure Slot where
  variant : Variant
  field : Field

def Variant.slots (v : Variant) : List Slot := v.fields.map (Slot.mk v)

/-- Every field of the family, in the order of the schema. -/
def Family.slots (f : Family) : List Slot := f.variants.flatMap Variant.slots

theorem Variant.mem_slots {v : Variant} {s : Slot} :
    s ∈ v.slots ↔ s.variant = v ∧ s.field ∈ v.fields := by
  constructor
  · intro hs
    obtain ⟨a, ha, rfl⟩ := List.mem_map.mp hs
    exact ⟨rfl, ha⟩
  · rintro ⟨rfl, ha⟩
    exact List.mem_map_of_mem ha

theorem Family.mem_slots {f : Family} {s : Slot} :
    s ∈ f.slots ↔ s.variant ∈ f.variants ∧ s.field ∈ s.variant.fields := by
  rw [slots, List.mem_flatMap]
  constructor
  · rintro ⟨v, hv, hs⟩
    obtain ⟨rfl, ha⟩ := Variant.mem_slots.mp hs
    exact ⟨hv, ha⟩
  · rintro ⟨hv, ha⟩
    exact ⟨s.variant, hv, Variant.mem_slots.mpr ⟨rfl, ha⟩⟩

theorem Family.translates_iff_slots {f : Family} :
    f.Translates ↔ ∀ s ∈ f.slots, s.field.Translates := by
  constructor
  · intro h s hs
    obtain ⟨hv, ha⟩ := mem_slots.mp hs
    exact h s.variant hv s.field ha
  · intro h v hv a ha
    exact h ⟨v, a⟩ (mem_slots.mpr ⟨hv, ha⟩)

/-- The record says that the descriptor of the slot was translated. -/
def Slot.ReportedAs (s : Slot) (r : Record) : Prop :=
  ∃ t, FieldType.parse s.field.type = .ok t ∧
    r = ⟨.debug, .descriptor,
      "translated descriptor `" ++ s.field.type ++ "` to `" ++ t.render ++ "`"⟩

/-- A descriptor that translates is logged once. -/
theorem Slot.reportedAs_iff {s : Slot} {r : Record} :
    s.ReportedAs r ↔ s.field.records = [r] := by
  rw [ReportedAs, Field.records]
  cases FieldType.parse s.field.type with
  | error e => simp
  | ok t => simp [eq_comm]

theorem Slot.reported {slots : List Slot} (h : ∀ s ∈ slots, s.field.Translates) :
    List.Forall₂ ReportedAs slots (slots.flatMap fun s => s.field.records) := by
  induction slots with
  | nil => exact .nil
  | cons s rest ih =>
    obtain ⟨t, ht⟩ := h s List.mem_cons_self
    have hrecord : s.ReportedAs _ := ⟨t, ht, rfl⟩
    rw [List.flatMap_cons, reportedAs_iff.mp hrecord]
    exact .cons hrecord (ih fun b hb => h b (List.mem_cons_of_mem s hb))

/-- There is one way to log the slots. -/
theorem Slot.records_of_reported {slots : List Slot} {logged : List Record}
    (h : List.Forall₂ ReportedAs slots logged) :
    logged = slots.flatMap fun s => s.field.records := by
  induction h with
  | nil => rfl
  | cons hrecord _ ih => rw [List.flatMap_cons, reportedAs_iff.mp hrecord, ← ih]; rfl

/-- The record that a generation begins with. -/
def Family.announcement (f : Family) : Record :=
  ⟨.info, .generator,
    "generating " ++ toString f.variants.length ++ " variants for family `" ++ f.name ++ "`"⟩

theorem Variant.records_slots (v : Variant) :
    (v.slots.flatMap fun s => s.field.records) = v.records := by
  rw [slots, List.flatMap_map]
  rfl

theorem Family.records_slots (f : Family) :
    f.announcement :: f.slots.flatMap (fun s => s.field.records) = f.records := by
  rw [slots, List.flatMap_assoc]
  simp only [Variant.records_slots]
  rfl

/-! ## The first rejected slot -/

/-- The descriptor of the slot is the first one that does not translate. -/
structure FirstRejected (slots before : List Slot) (s : Slot) (cause : DescriptorError) :
    Prop where
  split : ∃ after, slots = before ++ s :: after
  earlier : ∀ b ∈ before, b.field.Translates
  rejected : FieldType.parse s.field.type = .error cause

theorem Field.not_translates_iff {a : Field} :
    ¬ a.Translates ↔ ∃ cause, FieldType.parse a.type = .error cause := by
  rw [Translates]
  cases FieldType.parse a.type with
  | error cause => simp
  | ok t => simp

theorem FirstRejected.mem {slots before : List Slot} {s : Slot} {cause : DescriptorError}
    (h : FirstRejected slots before s cause) : s ∈ slots := by
  obtain ⟨after, rfl⟩ := h.split
  exact List.mem_append_right before List.mem_cons_self

theorem translates_or_firstRejected (slots : List Slot) :
    (∀ s ∈ slots, s.field.Translates) ∨ ∃ before s cause, FirstRejected slots before s cause := by
  induction slots with
  | nil => exact .inl fun _ hs => absurd hs List.not_mem_nil
  | cons s rest ih =>
    cases hparse : FieldType.parse s.field.type with
    | error cause =>
      exact .inr ⟨[], s, cause, ⟨rest, rfl⟩, fun _ hb => absurd hb List.not_mem_nil, hparse⟩
    | ok t =>
      have hs : s.field.Translates := ⟨t, hparse⟩
      rcases ih with hrest | ⟨before, x, cause, ⟨after, rfl⟩, hearlier, hx⟩
      · exact .inl (List.forall_mem_cons.mpr ⟨hs, hrest⟩)
      · exact .inr ⟨s :: before, x, cause, ⟨after, rfl⟩,
          List.forall_mem_cons.mpr ⟨hs, hearlier⟩, hx⟩

/-- A rejected slot lies in the first list or in the second one. -/
theorem FirstRejected.of_append {a b before : List Slot} {s : Slot} {cause : DescriptorError}
    (h : FirstRejected (a ++ b) before s cause) :
    FirstRejected a before s cause ∨
      ∃ more, before = a ++ more ∧ (∀ x ∈ a, x.field.Translates) ∧
        FirstRejected b more s cause := by
  obtain ⟨⟨after, hsplit⟩, hearlier, hrejected⟩ := h
  rcases List.append_eq_append_iff.mp hsplit with ⟨more, rfl, hb⟩ | ⟨inner, rfl, hinner⟩
  · obtain ⟨ha, hmore⟩ := List.forall_mem_append.mp hearlier
    exact .inr ⟨more, rfl, ha, ⟨after, hb⟩, hmore, hrejected⟩
  · cases inner with
    | nil =>
      refine .inr ⟨[], by simp, ?_, ⟨after, hinner.symm⟩, ?_, hrejected⟩
      · simpa using hearlier
      · exact fun _ hx => absurd hx List.not_mem_nil
    | cons x rest =>
      obtain ⟨rfl, -⟩ := List.cons.inj hinner
      exact .inl ⟨⟨rest, rfl⟩, hearlier, hrejected⟩

/-! ## Where a generation ends -/

/-- The error that a descriptor is rejected with. -/
def Family.rejection (f : Family) (s : Slot) (cause : DescriptorError) : GenerateError :=
  .badDescriptor f.name s.variant.name s.field.name s.field.type cause

namespace Generation

variable {α β : Type}

/-- After an error nothing more is done. -/
theorem Gives.bind_error {x : Generation α} {e : GenerateError} {records : List Record}
    (hx : x.Gives (.error e) records) (f : α → Generation β) :
    (x >>= f).Gives (.error e) records := by
  intro log
  rw [ExceptT.run_bind, StateT.run_bind, hx log]
  rfl

theorem lowerField_rejects (f : Family) (v : Variant) {a : Field} {cause : DescriptorError}
    (h : FieldType.parse a.type = .error cause) :
    (lowerField f v a).Gives (.error (f.rejection ⟨v, a⟩ cause)) [] := by
  intro log
  rw [lowerField, FieldType.parseLogged, h, List.append_nil]
  rfl

theorem lowerFields_rejects (f : Family) (v : Variant) {fields : List Field}
    {before : List Slot} {s : Slot} {cause : DescriptorError}
    (h : FirstRejected (fields.map (Slot.mk v)) before s cause) :
    (lowerFields f v fields).Gives (.error (f.rejection s cause))
      (before.flatMap fun b => b.field.records) := by
  induction fields generalizing before with
  | nil =>
    obtain ⟨⟨after, hsplit⟩, -, -⟩ := h
    simp at hsplit
  | cons a rest ih =>
    rw [lowerFields]
    have hcons : FirstRejected ([⟨v, a⟩] ++ rest.map (Slot.mk v)) before s cause := h
    rcases hcons.of_append with ⟨⟨after, hsplit⟩, -, hrejected⟩ | ⟨more, rfl, ha, hrest⟩
    · obtain ⟨rfl, rfl⟩ : before = [] ∧ s = ⟨v, a⟩ := by
        cases before with
        | nil => exact ⟨rfl, (List.cons.inj hsplit).1.symm⟩
        | cons b more => simp at hsplit
      exact (lowerField_rejects f v hrejected).bind_error _
    · obtain ⟨t, ht⟩ := ha ⟨v, a⟩ List.mem_cons_self
      exact (lowerField_gives f v ht).bind ((ih hrest).bind_error _)

theorem variant_rejects (f : Family) {v : Variant} {before : List Slot} {s : Slot}
    {cause : DescriptorError} (h : FirstRejected v.slots before s cause) :
    (variant f v).Gives (.error (f.rejection s cause))
      (before.flatMap fun b => b.field.records) :=
  (lowerFields_rejects f v h).bind_error _

theorem variants_rejects (f : Family) {vs : List Variant} {before : List Slot} {s : Slot}
    {cause : DescriptorError} (h : FirstRejected (vs.flatMap Variant.slots) before s cause) :
    (variants f vs).Gives (.error (f.rejection s cause))
      (before.flatMap fun b => b.field.records) := by
  induction vs generalizing before with
  | nil =>
    obtain ⟨⟨after, hsplit⟩, -, -⟩ := h
    simp at hsplit
  | cons v rest ih =>
    rw [variants]
    have hcons : FirstRejected (v.slots ++ rest.flatMap Variant.slots) before s cause := h
    rcases hcons.of_append with hv | ⟨more, rfl, hv, hrest⟩
    · exact (variant_rejects f hv).bind_error _
    · have htranslates : ∀ a ∈ v.fields, a.Translates :=
        fun a ha => hv ⟨v, a⟩ (Variant.mem_slots.mpr ⟨rfl, ha⟩)
      rw [List.flatMap_append, v.records_slots]
      exact (variant_gives f htranslates).bind ((ih hrest).bind_error _)

theorem familyText_rejects {f : Family} {before : List Slot} {s : Slot} {cause : DescriptorError}
    (h : FirstRejected f.slots before s cause) (config : Config) :
    (familyText f config).Gives (.error (f.rejection s cause))
      (f.announcement :: before.flatMap fun b => b.field.records) := by
  have hfamily : (family f).Gives (.error (f.rejection s cause))
      (f.announcement :: before.flatMap fun b => b.field.records) := by
    rw [family]
    exact (gives_report _ _ _).bind ((variants_rejects f h).bind_error _)
  exact hfamily.bind_error _

/-! ## Blocks of a file -/

/-- The text that a variant becomes. -/
def BlockOf (f : Family) (v : Variant) (block : String) : Prop :=
  ∃ ds, (variant f v).collect.1 = .ok ds ∧ block = renderAll ds

theorem blockOf_iff {f : Family} {v : Variant} (h : ∀ a ∈ v.fields, a.Translates)
    {block : String} : BlockOf f v block ↔ block = renderAll (f.nodeDeclarations v v.typed) := by
  rw [BlockOf, variant_collect f h]
  constructor
  · rintro ⟨ds, hds, rfl⟩
    cases hds
    rfl
  · intro hblock
    exact ⟨_, rfl, hblock⟩

theorem BlockOf.translates {f : Family} {v : Variant} {block : String} (h : BlockOf f v block) :
    ∀ s ∈ v.slots, s.field.Translates := by
  rcases translates_or_firstRejected v.slots with hall | ⟨before, s, cause, hfirst⟩
  · exact hall
  · obtain ⟨ds, hds, -⟩ := h
    rw [(variant_rejects f hfirst).collect] at hds
    cases hds

theorem translates_of_blocks {f : Family} {blocks : List String}
    (h : List.Forall₂ (BlockOf f) f.variants blocks) : f.Translates := by
  intro v hv a ha
  obtain ⟨i, hi, rfl⟩ := List.mem_iff_getElem.mp hv
  have hblock := h.get hi (h.length_eq ▸ hi)
  exact hblock.translates ⟨_, a⟩ (Variant.mem_slots.mpr ⟨rfl, ha⟩)

theorem blocks_iff {f : Family} {vs : List Variant} {blocks : List String}
    (h : ∀ v ∈ vs, ∀ a ∈ v.fields, a.Translates) :
    List.Forall₂ (BlockOf f) vs blocks ↔
      blocks = vs.map fun v => renderAll (f.nodeDeclarations v v.typed) := by
  induction vs generalizing blocks with
  | nil => rw [List.forall₂_nil_left_iff, List.map_nil]
  | cons v rest ih =>
    rw [List.forall₂_cons_left_iff, List.map_cons]
    have hv := h v List.mem_cons_self
    have hrest := fun w hw => h w (List.mem_cons_of_mem v hw)
    constructor
    · rintro ⟨block, more, hblock, hmore, rfl⟩
      rw [(blockOf_iff hv).mp hblock, (ih hrest).mp hmore]
    · rintro rfl
      exact ⟨_, _, (blockOf_iff hv).mpr rfl, (ih hrest).mpr rfl, rfl⟩

/-! ## Results -/

section Results

variable {f : Family} {config : Config} {records : List Record}

theorem familyText_eq_error_iff {e : GenerateError} :
    (familyText f config).collect = (.error e, records) ↔
      ∃ before s cause logged, FirstRejected f.slots before s cause ∧
        e = f.rejection s cause ∧ records = f.announcement :: logged ∧
        List.Forall₂ Slot.ReportedAs before logged := by
  constructor
  · intro h
    rcases translates_or_firstRejected f.slots with hall | ⟨before, s, cause, hfirst⟩
    · rw [(familyText_gives (Family.translates_iff_slots.mpr hall) config).collect] at h
      cases h
    · rw [(familyText_rejects hfirst config).collect] at h
      cases h
      exact ⟨before, s, cause, _, hfirst, rfl, rfl, Slot.reported hfirst.earlier⟩
  · rintro ⟨before, s, cause, logged, hfirst, rfl, rfl, hlogged⟩
    rw [(familyText_rejects hfirst config).collect, Slot.records_of_reported hlogged]

theorem familyText_eq_ok_iff {text : String} :
    (familyText f config).collect = (.ok text, records) ↔
      ∃ blocks logged, List.Forall₂ (BlockOf f) f.variants blocks ∧
        text = withPreamble config.generator config.package
          (Text.joinWith "\n" (renderAll f.interfaces :: blocks)) ∧
        records = f.announcement :: logged ∧ List.Forall₂ Slot.ReportedAs f.slots logged := by
  have hbody : renderAll f.declarations = Text.joinWith "\n" (renderAll f.interfaces ::
      f.variants.map fun v => renderAll (f.nodeDeclarations v v.typed)) :=
    renderAll_flatMap (List.cons_ne_nil _ _) (fun _ => List.cons_ne_nil _ _) f.variants
  constructor
  · intro h
    rcases translates_or_firstRejected f.slots with hall | ⟨before, s, cause, hfirst⟩
    · have htranslates := Family.translates_iff_slots.mpr hall
      rw [(familyText_gives htranslates config).collect, hbody, ← f.records_slots] at h
      cases h
      exact ⟨_, _, (blocks_iff htranslates).mpr rfl, rfl, rfl, Slot.reported hall⟩
    · rw [(familyText_rejects hfirst config).collect] at h
      cases h
  · rintro ⟨blocks, logged, hblocks, rfl, rfl, hlogged⟩
    have htranslates : f.Translates := translates_of_blocks hblocks
    rw [(familyText_gives htranslates config).collect, hbody, ← f.records_slots,
      (blocks_iff htranslates).mp hblocks, Slot.records_of_reported hlogged]

theorem familyText_fails_iff :
    (∃ e, (familyText f config).collect.1 = .error e) ↔ ∃ s ∈ f.slots, ¬ s.field.Translates := by
  rcases translates_or_firstRejected f.slots with hall | ⟨before, s, cause, hfirst⟩
  · rw [(familyText_gives (Family.translates_iff_slots.mpr hall) config).collect]
    constructor
    · rintro ⟨e, he⟩
      cases he
    · rintro ⟨s, hs, hrejected⟩
      exact absurd (hall s hs) hrejected
  · rw [(familyText_rejects hfirst config).collect]
    have hrejected : ¬ s.field.Translates := Field.not_translates_iff.mpr ⟨cause, hfirst.rejected⟩
    exact iff_of_true ⟨_, rfl⟩ ⟨s, hfirst.mem, hrejected⟩

end Results

/-- The generation of a family fails if some descriptor does not translate.  It reports the
first such descriptor, and has logged the earlier ones.  Otherwise it has the blocks of the
variants in order. -/
theorem familyText_firstRejected (f : Family) (config : Config) :
    ((∃ e, (familyText f config).collect.1 = .error e) ↔
      ∃ v ∈ f.variants, ∃ a ∈ v.fields, ∃ cause, FieldType.parse a.type = .error cause) ∧
    (∀ e records, (familyText f config).collect = (.error e, records) ↔
      ∃ before s cause logged, FirstRejected f.slots before s cause ∧
        e = .badDescriptor f.name s.variant.name s.field.name s.field.type cause ∧
        records = f.announcement :: logged ∧ List.Forall₂ Slot.ReportedAs before logged) ∧
    ∀ text records, (familyText f config).collect = (.ok text, records) ↔
      ∃ blocks logged, List.Forall₂ (BlockOf f) f.variants blocks ∧
        text = withPreamble config.generator config.package
          (Text.joinWith "\n" (renderAll f.interfaces :: blocks)) ∧
        records = f.announcement :: logged ∧ List.Forall₂ Slot.ReportedAs f.slots logged := by
  refine ⟨?_, fun e records => familyText_eq_error_iff, fun text records => familyText_eq_ok_iff⟩
  rw [familyText_fails_iff]
  constructor
  · rintro ⟨s, hs, hrejected⟩
    obtain ⟨hv, ha⟩ := Family.mem_slots.mp hs
    exact ⟨s.variant, hv, s.field, ha, Field.not_translates_iff.mp hrejected⟩
  · rintro ⟨v, hv, a, ha, hrejected⟩
    exact ⟨⟨v, a⟩, Family.mem_slots.mpr ⟨hv, ha⟩, Field.not_translates_iff.mpr hrejected⟩

end Generation
end NodeGen
