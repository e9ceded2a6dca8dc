/-
Reading types.

The text of a type holds brackets, asterisks and a name, and no mark for where one
part ends.  It can be read from left to right all the same, since an asterisk
belongs to whatever comes after it, and the name is that of an interface exactly
if no asterisk stands before it.  That is so for every type that a descriptor
stands for, which `Printable` says.
-/
import NodeGen.GoType
import NodeGen.Proofs.Descriptor.Scanning

namespace NodeGen

/-! ## Characters of types -/

/-- The characters of names and of the types of fields. -/
def isTypeChar (c : Char) : Bool :=
  isWordChar c || c == '*' || c == '[' || c == ']' || c == '\x7b' || c == '\x7d'

/-- A text that is a single word of Go source. -/
def IsWord (s : String) : Prop := ∀ c ∈ s.toList, isTypeChar c = true

theorem isWord_of_all {s : String} (h : s.toList.all isTypeChar = true) : IsWord s :=
  List.all_eq_true.mp h

theorem isTypeChar_of_isWordChar {c : Char} (h : isWordChar c = true) : isTypeChar c = true := by
  simp [isTypeChar, h]

theorem isWord_append {s t : String} (hs : IsWord s) (ht : IsWord t) : IsWord (s ++ t) := by
  intro c hc
  rw [String.toList_append] at hc
  rcases List.mem_append.mp hc with hc | hc
  · exact hs c hc
  · exact ht c hc

theorem isWord_of_isIdentifier {s : String} (h : isIdentifier s = true) : IsWord s :=
  fun c hc => isTypeChar_of_isWordChar (isWordChar_of_isIdentifier h c hc)

/-! ## Types -/

namespace GoType

/-- What the text of a type says, given how the type is held. -/
def ofText (held : Ownership) : List Char → GoType
  | '[' :: ']' :: '*' :: rest => list (ofText .owned rest) .owned
  | '[' :: ']' :: rest => list (ofText .value rest) .value
  | cs =>
    if cs = "interface\x7b\x7d".toList then dynamic
    else
      match held with
      | .value => base (String.ofList cs)
      | .owned => named (String.ofList cs)

/-- Names are identifiers, and interfaces alone are named without a pointer. -/
def Printable : GoType → Ownership → Prop
  | dynamic, _ => True
  | base name, held => held = .value ∧ isIdentifier name = true
  | named name, held => held = .owned ∧ isIdentifier name = true
  | list element ownership, _ => element.Printable ownership

theorem ofText_name (held : Ownership) {name : String} (h : isIdentifier name = true) :
    ofText held name.toList =
      match held with
      | .value => base name
      | .owned => named name := by
  obtain ⟨c, rest, hname, hc, -⟩ := isIdentifier_cons h
  have hbracket : c ≠ '[' := by
    rintro rfl
    exact absurd hc (by decide)
  have hdynamic : name.toList ≠ "interface\x7b\x7d".toList := by
    intro heq
    have hbrace : isWordChar '\x7b' = true :=
      isWordChar_of_isIdentifier h _ (by rw [heq]; decide)
    exact absurd hbrace (by decide)
  have hnotList (cs : List Char) : name.toList = '[' :: ']' :: cs → False := by
    intro heq
    rw [hname] at heq
    exact hbracket (List.cons.inj heq).1
  cases held with
  | value =>
    rw [ofText.eq_3 _ (fun cs => hnotList _) hnotList, if_neg hdynamic, String.ofList_toList]
  | owned =>
    rw [ofText.eq_4 _ (fun cs => hnotList _) hnotList, if_neg hdynamic, String.ofList_toList]

/-- No type starts with an asterisk of its own. -/
theorem render_ne_asterisk {t : GoType} {held : Ownership} (h : t.Printable held)
    (rest : List Char) : t.render.toList ≠ '*' :: rest := by
  have hname {name : String} (h : isIdentifier name = true) : name.toList ≠ '*' :: rest := by
    intro heq
    have hc : isWordChar '*' = true := isWordChar_of_isIdentifier h _ (by rw [heq]; simp)
    exact absurd hc (by decide)
  cases t with
  | dynamic => exact fun heq => absurd (List.cons.inj heq).1 (by decide)
  | base name => exact hname h.2
  | named name => exact hname h.2
  | list element ownership =>
    intro heq
    simp only [render, String.toList_append] at heq
    exact absurd (List.cons.inj heq).1 (by decide)

theorem ofText_render {t : GoType} {held : Ownership} (h : t.Printable held) :
    ofText held t.render.toList = t := by
  induction t generalizing held with
  | dynamic => cases held <;> rfl
  | base name =>
    obtain ⟨rfl, hname⟩ := h
    exact ofText_name .value hname
  | named name =>
    obtain ⟨rfl, hname⟩ := h
    exact ofText_name .owned hname
  | list element ownership ih =>
    have helement : element.Printable ownership := h
    cases ownership with
    | owned =>
      have hrender : (list element .owned).render.toList =
          '[' :: ']' :: '*' :: element.render.toList := by
        simp only [render, Ownership.render, String.toList_append]
        rfl
      rw [hrender, ofText, ih helement]
    | value =>
      have hrender : (list element .value).render.toList =
          '[' :: ']' :: element.render.toList := by
        simp only [render, Ownership.render, String.toList_append]
        rfl
      rw [hrender, ofText.eq_2 _ _ (render_ne_asterisk helement), ih helement]

theorem isWord_render {t : GoType} {held : Ownership} (h : t.Printable held) :
    IsWord t.render := by
  induction t generalizing held with
  | dynamic => exact isWord_of_all (by decide)
  | base name => exact isWord_of_isIdentifier h.2
  | named name => exact isWord_of_isIdentifier h.2
  | list element ownership ih =>
    have helement : element.Printable ownership := h
    have hmark : IsWord ("[]" ++ ownership.render) := by
      cases ownership <;> exact isWord_of_all (by decide)
    exact isWord_append hmark (ih helement)

/-! ## Types of descriptors -/

theorem isIdentifier_base {name : String} (h : isBaseType name = true) :
    isIdentifier (Text.capitalize (Text.lowerAscii name)) = true := by
  obtain ⟨b, hb, hsame⟩ := List.any_eq_true.mp h
  rw [← Text.sameLetters_iff.mp hsame]
  have hall : ∀ b ∈ baseTypeNames,
      isIdentifier (Text.capitalize (Text.lowerAscii b)) = true := by decide
  exact hall b hb

theorem printable_ofName {name : String} (h : isIdentifier name = true) :
    (ofName name).Printable (ofName name).fieldOwnership ∧
      (ofName name).Printable (ofName name).elementOwnership := by
  unfold ofName
  split
  · exact ⟨trivial, trivial⟩
  split
  · rename_i hbase
    have hname := isIdentifier_base hbase
    exact ⟨⟨rfl, hname⟩, ⟨rfl, hname⟩⟩
  · exact ⟨⟨rfl, h⟩, ⟨rfl, h⟩⟩

theorem printable_ofDescriptor {d : Descriptor} (h : isIdentifier d.innermostName = true) :
    (ofDescriptor d).Printable (ofDescriptor d).fieldOwnership ∧
      (ofDescriptor d).Printable (ofDescriptor d).elementOwnership := by
  induction d with
  | named q name => exact printable_ofName h
  | list d ih =>
    have helement := (ih h).2
    exact ⟨helement, helement⟩

end GoType

/-! ## Field types -/

namespace FieldType

def ofText : List Char → FieldType
  | '*' :: rest => ⟨GoType.ofText .owned rest, .owned⟩
  | cs => ⟨GoType.ofText .value cs, .value⟩

def Printable (t : FieldType) : Prop := t.type.Printable t.ownership

theorem ofText_render {t : FieldType} (h : t.Printable) : ofText t.render.toList = t := by
  obtain ⟨type, ownership⟩ := t
  have htype : type.Printable ownership := h
  cases ownership with
  | owned =>
    have hrender : (FieldType.mk type .owned).render.toList = '*' :: type.render.toList := by
      simp only [render, Ownership.render, String.toList_append]
      rfl
    rw [hrender, ofText, GoType.ofText_render htype]
  | value =>
    have hrender : (FieldType.mk type .value).render.toList = type.render.toList := by
      simp [render, Ownership.render]
    rw [hrender, ofText.eq_2 _ (GoType.render_ne_asterisk htype), GoType.ofText_render htype]

theorem isWord_render {t : FieldType} (h : t.Printable) : IsWord t.render := by
  have hmark : IsWord t.ownership.render := by
    cases t.ownership <;> exact isWord_of_all (by decide)
  exact isWord_append hmark (GoType.isWord_render h)

theorem printable_of_parse {src : String} {t : FieldType} (h : parse src = .ok t) :
    t.Printable := by
  obtain ⟨d, hparse, rfl⟩ := map_ok h
  have hname := Descriptor.isIdentifier_innermostName hparse
  show (GoType.ofDescriptor d.stripQualifiers).Printable
    (GoType.ofDescriptor d.stripQualifiers).fieldOwnership
  rw [GoType.ofDescriptor_stripQualifiers]
  exact (GoType.printable_ofDescriptor hname).1

/-- Texts whose types print alike stand for one type. -/
theorem eq_of_render_eq {s s' : String} {t t' : FieldType} (h : parse s = .ok t)
    (h' : parse s' = .ok t') (hrender : t.render = t'.render) : t = t' := by
  have hread : ofText t.render.toList = t := ofText_render (printable_of_parse h)
  have hread' : ofText t'.render.toList = t' := ofText_render (printable_of_parse h')
  calc
    t = ofText t.render.toList := hread.symm
    _ = ofText t'.render.toList := by rw [hrender]
    _ = t' := hread'

theorem eq_of_render_eq_nested :
    ∃ t t', parse "List<List<ast.EXPR>>" = .ok t ∧ parse " x.List < List<expr> > " = .ok t' ∧
      t.render = "*[]*[]Expr" ∧ t'.render = "*[]*[]Expr" ∧ t = t' := by
  have h : parse "List<List<ast.EXPR>>" =
      .ok ⟨.list (.list (.base "Expr") .value) .owned, .owned⟩ := by decide
  have h' : parse " x.List < List<expr> > " =
      .ok ⟨.list (.list (.base "Expr") .value) .owned, .owned⟩ := by decide
  exact ⟨_, _, h, h', rfl, rfl, eq_of_render_eq h h' rfl⟩

/-- Other types can print alike. -/
example : (FieldType.mk (.base "Expr") .value).render = (FieldType.mk (.named "Expr") .value).render :=
  rfl

end FieldType
end NodeGen
