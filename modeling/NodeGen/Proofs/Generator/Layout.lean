/-
The layout of a generated file.

Each block of a file is known by how it starts and by how many lines stand in its braces.
`Family.outlines` lists both for the blocks of a family in their order, from the schema
alone, and the generated file has exactly these blocks.
-/
import NodeGen.Proofs.Generator.Faithful
import NodeGen.Proofs.GoSource.Layout

namespace NodeGen

open GoSource

/-! ## Outlines -/

namespace Family

/-- The struct of a variant, its constructor and its dispatch method.  The constructor
allocates the node, sets each field and returns the node. -/
def nodeOutlines (f : Family) (v : Variant) : List Outline :=
  [⟨"type " ++ v.name ++ " struct \x7b", v.fields.length⟩,
    ⟨"func New" ++ v.name ++ "(", v.fields.length + 2⟩,
    ⟨"func (" ++ f.name ++ " *" ++ v.name ++ ") accept(", 1⟩]

def outlines (f : Family) : List Outline :=
  [⟨"type " ++ f.baseName ++ " interface \x7b", 1⟩,
    ⟨"type " ++ f.visitorName ++ " interface \x7b", f.variants.length⟩] ++
    f.variants.flatMap f.nodeOutlines

theorem length_outlines (f : Family) : f.outlines.length = 2 + 3 * f.variants.length := by
  have hnodes (vs : List Variant) : (vs.flatMap f.nodeOutlines).length = 3 * vs.length := by
    induction vs with
    | nil => rfl
    | cons v rest ih =>
      rw [List.flatMap_cons, List.length_append, ih, List.length_cons]
      show 3 + 3 * rest.length = _
      omega
  rw [outlines, List.length_append, hnodes]
  rfl

end Family

/-! ## Ends of items -/

theorem GoType.ends_render {t : GoType} {held : Ownership} (h : t.Printable held) :
    Ends t.render.toList := by
  induction t generalizing held with
  | dynamic => exact ⟨"interface\x7b".toList, '\x7d', by decide, by decide⟩
  | base name => exact ends_of_isIdentifier h.2
  | named name => exact ends_of_isIdentifier h.2
  | list element ownership ih =>
    have helement : element.Printable ownership := h
    rw [render, String.toList_append]
    exact (ih helement).append _

theorem FieldType.ends_render {t : FieldType} (h : t.Printable) : Ends t.render.toList := by
  rw [render, String.toList_append]
  exact (GoType.ends_render h).append _

theorem ends_dispatchResult : Ends dispatchResult.toList :=
  ⟨"(interface\x7b\x7d, error".toList, ')', by decide, by decide⟩

namespace Family

variable {f : Family}

theorem shown_baseInterface (f : Family) : f.baseInterface.Shown := by
  refine shown_signatures ?_ _
  intro s hs
  obtain rfl := List.mem_singleton.mp hs
  have hname : isIdentifier dispatchName = true := by decide
  exact ⟨hname, ends_dispatchResult⟩

theorem Named.shown_visitorInterface (h : f.Named) : f.visitorInterface.Shown := by
  refine shown_signatures ?_ _
  intro s hs
  obtain ⟨v, hv, rfl⟩ := List.mem_map.mp hs
  exact ⟨h.visitMethod hv, ends_dispatchResult⟩

theorem Named.shown_structDeclaration (h : f.Named) {v : Variant} (hv : v ∈ f.variants) :
    (structDeclaration v v.typed).Shown := by
  refine shown_fields ?_ _
  intro b hb
  obtain ⟨typed, htyped, rfl⟩ := List.mem_map.mp hb
  obtain ⟨a, -, -, hparse⟩ := Field.mem_typed htyped
  exact ⟨(h.binding hv _ hb).1, FieldType.ends_render (FieldType.printable_of_parse hparse)⟩

theorem Named.shown_constructor (h : f.Named) {v : Variant} (hv : v ∈ f.variants) :
    (f.constructor v v.typed).Shown := by
  refine shown_statements ?_
  intro s hs
  rcases List.mem_append.mp hs with hs | hs
  · rcases List.mem_cons.mp hs with rfl | hs
    · exact begins_of_isIdentifier h.family
    · obtain ⟨typed, htyped, rfl⟩ := List.mem_map.mp hs
      have hfield : isIdentifier typed.name = true :=
        (h.binding hv typed.binding (List.mem_map_of_mem htyped)).1
      exact ⟨begins_of_isIdentifier h.family, ends_of_isIdentifier hfield⟩
  · obtain rfl := List.mem_singleton.mp hs
    exact ends_of_isIdentifier h.family

theorem shown_acceptMethod (f : Family) (v : Variant) : (f.acceptMethod v).Shown := by
  refine shown_statements ?_
  intro s hs
  obtain rfl := List.mem_singleton.mp hs
  exact trivial

theorem Named.shown_declarations (h : f.Named) : ∀ d ∈ f.declarations, d.Shown := by
  intro d hd
  rcases List.mem_append.mp hd with hd | hd
  · simp only [interfaces, List.mem_cons, List.not_mem_nil, or_false] at hd
    rcases hd with rfl | rfl
    · exact f.shown_baseInterface
    · exact h.shown_visitorInterface
  · obtain ⟨v, hv, hd⟩ := List.mem_flatMap.mp hd
    simp only [Family.nodeDeclarations, List.mem_cons, List.not_mem_nil, or_false] at hd
    rcases hd with rfl | rfl | rfl
    · exact h.shown_structDeclaration hv
    · exact h.shown_constructor hv
    · exact f.shown_acceptMethod v

/-! ## Blocks of a family -/

theorem length_typed {v : Variant} (h : ∀ a ∈ v.fields, a.Translates) :
    v.typed.length = v.fields.length :=
  (Variant.lowersTo_lowered h).2.length_eq.symm

theorem Named.fits_interfaces (h : f.Named) :
    List.Forall₂ Outline.Fits
      [⟨"type " ++ f.baseName ++ " interface \x7b", 1⟩,
        ⟨"type " ++ f.visitorName ++ " interface \x7b", f.variants.length⟩]
      (f.interfaces.map paragraph) := by
  have hopening (name : String) : ("type " ++ name ++ " interface \x7b").toList ++ [] =
      ("type " ++ name ++ " interface").toList ++ " \x7b".toList := by
    simp only [String.toList_append, List.append_assoc]
    rfl
  have hbase : Outline.Fits ⟨"type " ++ f.baseName ++ " interface \x7b", 1⟩
      (paragraph f.baseInterface) :=
    fits_paragraph f.shown_baseInterface (hopening f.baseName) rfl
  have hsize : f.visitorInterface.lines.length = f.variants.length := by
    show ((f.variants.map f.visitSignature).map Signature.render).length = _
    rw [List.length_map, List.length_map]
  have hvisitor : Outline.Fits ⟨"type " ++ f.visitorName ++ " interface \x7b", f.variants.length⟩
      (paragraph f.visitorInterface) :=
    fits_paragraph h.shown_visitorInterface (hopening f.visitorName) hsize
  exact .cons hbase (.cons hvisitor .nil)

theorem Named.fits_struct (h : f.Named) {v : Variant} (hv : v ∈ f.variants)
    (htranslates : ∀ a ∈ v.fields, a.Translates) :
    Outline.Fits ⟨"type " ++ v.name ++ " struct \x7b", v.fields.length⟩
      (paragraph (structDeclaration v v.typed)) := by
  have hopening : ("type " ++ v.name ++ " struct \x7b").toList ++ [] =
      ("type " ++ v.name ++ " struct").toList ++ " \x7b".toList := by
    simp only [String.toList_append, List.append_assoc]
    rfl
  have hsize : (structDeclaration v v.typed).lines.length = v.fields.length := by
    show (fieldLines (v.typed.map TypedField.binding)).length = _
    rw [fieldLines, List.length_map, List.length_map, length_typed htranslates]
  exact fits_paragraph (h.shown_structDeclaration hv) hopening hsize

theorem Named.fits_constructor (h : f.Named) {v : Variant} (hv : v ∈ f.variants)
    (htranslates : ∀ a ∈ v.fields, a.Translates) :
    Outline.Fits ⟨"func New" ++ v.name ++ "(", v.fields.length + 2⟩
      (paragraph (f.constructor v v.typed)) := by
  let parameters := Text.joinWith ", " ((v.typed.map TypedField.binding).map Binding.render)
  have hopening : ("func New" ++ v.name ++ "(").toList ++
      (parameters.toList ++ (") ".toList ++ (("*" ++ v.name).toList ++ " \x7b".toList))) =
      (f.constructor v v.typed).header.toList ++ " \x7b".toList := by
    simp only [Family.constructor, Declaration.header, Signature.render, String.toList_append,
      List.append_assoc]
    rfl
  have hsize : (f.constructor v v.typed).lines.length = v.fields.length + 2 := by
    simp only [Family.constructor, Declaration.lines, List.length_map, List.length_append,
      List.length_cons, List.length_nil, length_typed htranslates]
  exact fits_paragraph (h.shown_constructor hv) hopening hsize

theorem fits_accept (f : Family) (v : Variant) :
    Outline.Fits ⟨"func (" ++ f.name ++ " *" ++ v.name ++ ") accept(", 1⟩
      (paragraph (f.acceptMethod v)) := by
  have hopening : ("func (" ++ f.name ++ " *" ++ v.name ++ ") accept(").toList ++
      ("visitor ".toList ++ (f.visitorName.toList ++
        (") ".toList ++ (dispatchResult.toList ++ " \x7b".toList)))) =
      (f.acceptMethod v).header.toList ++ " \x7b".toList := by
    simp only [acceptMethod, dispatch, dispatchName, Declaration.header, Signature.render,
      Binding.render, List.map_cons, List.map_nil, Text.joinWith_singleton, String.toList_append,
      List.append_assoc]
    rfl
  exact fits_paragraph (f.shown_acceptMethod v) hopening rfl

theorem Named.fits_variants (h : f.Named) (htranslates : f.Translates) {vs : List Variant}
    (hvs : ∀ v ∈ vs, v ∈ f.variants) :
    List.Forall₂ Outline.Fits (vs.flatMap f.nodeOutlines)
      ((vs.flatMap fun v => f.nodeDeclarations v v.typed).map paragraph) := by
  induction vs with
  | nil => exact .nil
  | cons v rest ih =>
    obtain ⟨hv, hrest⟩ := List.forall_mem_cons.mp hvs
    have hfields := htranslates v hv
    have hnode : List.Forall₂ Outline.Fits (f.nodeOutlines v)
        ((f.nodeDeclarations v v.typed).map paragraph) :=
      .cons (h.fits_struct hv hfields)
        (.cons (h.fits_constructor hv hfields) (.cons (f.fits_accept v) .nil))
    rw [List.flatMap_cons, List.flatMap_cons, List.map_append]
    exact List.rel_append hnode (ih hrest)

theorem Named.fits_declarations (h : f.Named) (htranslates : f.Translates) :
    List.Forall₂ Outline.Fits f.outlines (f.declarations.map paragraph) := by
  rw [outlines, Family.declarations, List.map_append]
  exact List.rel_append h.fits_interfaces (h.fits_variants htranslates fun _ hv => hv)

end Family

/-! ## Files -/

/-- The text of a family is its preamble and the blocks of its outlines, with one blank line
between neighbours. -/
theorem Generation.familyText_layout {f : Family} (hnamed : f.Named) (htranslates : f.Translates)
    {c : Config} (hpackage : isIdentifier c.package = true)
    (hgenerator : '\n' ∉ c.generator.toList) :
    ∃ text blocks, (familyText f c).collect.1 = .ok text ∧
      Tidy (["package ".toList ++ c.package.toList, [],
        "// This code is generated by `".toList ++ (c.generator.toList ++ "`.".toList), []] ++
          [[]].intercalate blocks) text ∧
      f.outlines.length = 2 + 3 * f.variants.length ∧
      List.Forall₂ Outline.Fits f.outlines blocks := by
  have hne : f.declarations ≠ [] := List.cons_ne_nil _ _
  exact ⟨_, f.declarations.map paragraph,
    congrArg Prod.fst (familyText_gives htranslates c).collect,
    tidy_withPreamble hne hgenerator hpackage hnamed.declarations hnamed.shown_declarations,
    f.length_outlines, hnamed.fits_declarations htranslates⟩

/-- A variant without fields has a struct without lines and a constructor of two. -/
theorem Generation.breakText_layout :
    let f : Family :=
      ⟨"stmt", [⟨"Break", []⟩, ⟨"Return", [⟨"Token", "keyword"⟩, ⟨"List<Expr>", "values"⟩]⟩]⟩
    f.Named ∧ f.Translates ∧ isIdentifier defaultPackage = true ∧ '\n' ∉ generatorName.toList ∧
      ∃ text blocks, (familyText f (Config.default "/work")).collect.1 = .ok text ∧
        Tidy (["package glox".toList, [], "// This code is generated by `glox-build`.".toList, []] ++
          [[]].intercalate blocks) text ∧
        List.Forall₂ Outline.Fits
          [⟨"type Stmt interface \x7b", 1⟩, ⟨"type stmtVisitor interface \x7b", 2⟩,
            ⟨"type Break struct \x7b", 0⟩, ⟨"func NewBreak(", 2⟩,
            ⟨"func (stmt *Break) accept(", 1⟩, ⟨"type Return struct \x7b", 2⟩,
            ⟨"func NewReturn(", 4⟩, ⟨"func (stmt *Return) accept(", 1⟩] blocks := by
  intro f
  have hnamed : f.Named := by decide
  have htranslates : f.Translates := by decide
  have hpackage : isIdentifier defaultPackage = true := by decide
  have hgenerator : '\n' ∉ generatorName.toList := by decide
  obtain ⟨text, blocks, htext, htidy, -, hfits⟩ := familyText_layout hnamed htranslates
    (c := Config.default "/work") hpackage hgenerator
  have houtlines : f.outlines =
      [⟨"type Stmt interface \x7b", 1⟩, ⟨"type stmtVisitor interface \x7b", 2⟩,
        ⟨"type Break struct \x7b", 0⟩, ⟨"func NewBreak(", 2⟩,
        ⟨"func (stmt *Break) accept(", 1⟩, ⟨"type Return struct \x7b", 2⟩,
        ⟨"func NewReturn(", 4⟩, ⟨"func (stmt *Return) accept(", 1⟩] := by decide
  rw [houtlines] at hfits
  exact ⟨hnamed, htranslates, hpackage, hgenerator, text, blocks, htext, htidy, hfits⟩

end NodeGen
