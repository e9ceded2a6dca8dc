/-
Edits of a schema.

A variant contributes two stretches to the text of its family, a line to the visitor
interface and a block at the end.  Neither depends on the other variants, and the text is
what is above the lines, the lines, and the blocks, each list in the order of the schema.
So one variant more is two stretches more.
-/
import NodeGen.Proofs.Generator.Rejection

namespace NodeGen

open GoSource

/-! ## Joined texts -/

/-- Separators between neighbours are separators before all texts but the first. -/
theorem Text.joinWith_cons (separator s : String) (rest : List String) :
    joinWith separator (s :: rest) = s ++ String.join (rest.map (separator ++ ·)) := by
  induction rest generalizing s with
  | nil => rw [joinWith_singleton, List.map_nil, String.join_nil, String.append_empty]
  | cons t more ih =>
    rw [joinWith_cons_cons, ih, List.map_cons, String.join_cons]
    simp only [String.append_assoc]

theorem GoSource.indented_eq_join (lines : List String) :
    indented lines = String.join (lines.map fun line => "\t" ++ line ++ "\n") := by
  induction lines with
  | nil => rfl
  | cons line rest ih => rw [indented, ih, List.map_cons, String.join_cons]

theorem GoSource.withPreamble_append (generator package s t : String) :
    withPreamble generator package (s ++ t) = withPreamble generator package s ++ t :=
  (String.append_assoc ..).symm

/-! ## Contributions of variants -/

/-- The line of a variant in the visitor interface of the family of that name. -/
def visitLine (family : String) (v : Variant) : String :=
  "\tvisit" ++ v.name ++ Text.capitalize family ++ "(" ++ family ++ " *" ++ v.name ++
    ") (interface\x7b\x7d, error)\n"

def visitLines (family : String) (vs : List Variant) : String :=
  String.join (vs.map (visitLine family))

/-- The blocks of the variants, each under the blank line that separates it. -/
def separatedBlocks (block : Variant → String) (vs : List Variant) : String :=
  String.join (vs.map fun v => "\n" ++ block v)

theorem visitLines_append (family : String) (a b : List Variant) :
    visitLines family (a ++ b) = visitLines family a ++ visitLines family b := by
  rw [visitLines, List.map_append, String.join_append]
  rfl

theorem separatedBlocks_append (block : Variant → String) (a b : List Variant) :
    separatedBlocks block (a ++ b) = separatedBlocks block a ++ separatedBlocks block b := by
  rw [separatedBlocks, List.map_append, String.join_append]
  rfl

theorem visitLines_singleton (family : String) (v : Variant) :
    visitLines family [v] = visitLine family v := by
  rw [visitLines, List.map_singleton, String.join_cons, String.join_nil, String.append_empty]

theorem separatedBlocks_singleton (block : Variant → String) (v : Variant) :
    separatedBlocks block [v] = "\n" ++ block v := by
  rw [separatedBlocks, List.map_singleton, String.join_cons, String.join_nil, String.append_empty]

theorem visitLine_eq (f : Family) (v : Variant) :
    "\t" ++ (f.visitSignature v).render ++ "\n" = visitLine f.name v := by
  rw [← String.toList_inj]
  simp only [Family.visitSignature, Signature.render, Binding.render, Family.visitMethod,
    Family.baseName, dispatchResult, visitLine, List.map_cons, List.map_nil,
    Text.joinWith_singleton, String.toList_append, List.append_assoc]
  rfl

namespace Family

/-- The interfaces of a family up to the first line of the visitor interface. -/
def interfacesOpening (f : Family) : String :=
  f.baseInterface.render ++ "\n" ++ ("type " ++ f.visitorName ++ " interface \x7b\n")

theorem opening_visitorInterface (f : Family) :
    "type " ++ f.visitorName ++ " interface \x7b\n" =
      "type " ++ f.name ++ "Visitor interface \x7b\n" := by
  simp only [← String.toList_inj, visitorName, String.toList_append, List.append_assoc]
  rfl

theorem renderAll_interfaces (f : Family) :
    renderAll f.interfaces = f.interfacesOpening ++ visitLines f.name f.variants ++ "\x7d\n" := by
  have hlines : indented f.visitorInterface.lines = visitLines f.name f.variants := by
    show indented ((f.variants.map f.visitSignature).map Signature.render) = _
    rw [indented_eq_join, List.map_map, List.map_map, visitLines]
    refine congrArg String.join (List.map_congr_left fun v _ => visitLine_eq f v)
  have hvisitor : f.visitorInterface.render =
      "type " ++ f.visitorName ++ " interface \x7b\n" ++ visitLines f.name f.variants ++ "\x7d\n" := by
    rw [← String.toList_inj, Declaration.render, block, hlines]
    simp only [visitorInterface, Declaration.header, String.toList_append, List.append_assoc]
    rfl
  show f.baseInterface.render ++ "\n" ++ f.visitorInterface.render = _
  rw [hvisitor, interfacesOpening]
  simp only [String.append_assoc]

/-- The declarations of a variant do not depend on what other variants the family has. -/
theorem nodeDeclarations_congr {f g : Family} (h : f.name = g.name) (v : Variant)
    (fields : List TypedField) : f.nodeDeclarations v fields = g.nodeDeclarations v fields := by
  simp only [nodeDeclarations, constructor, acceptMethod, dispatch, visitMethod, visitorName,
    baseName, h]

end Family

/-- The text of a family, variant by variant. -/
theorem Generation.familyText_assembled {f : Family} (h : f.Translates) (config : Config)
    {block : Variant → String}
    (hblock : ∀ v ∈ f.variants, block v = renderAll (f.nodeDeclarations v v.typed)) :
    (familyText f config).collect.1 =
      .ok (withPreamble config.generator config.package f.interfacesOpening ++
        visitLines f.name f.variants ++ "\x7d\n" ++ separatedBlocks block f.variants) := by
  have hblocks : separatedBlocks block f.variants = String.join
      ((f.variants.map fun v => renderAll (f.nodeDeclarations v v.typed)).map ("\n" ++ ·)) := by
    rw [List.map_map, separatedBlocks]
    exact congrArg String.join
      (List.map_congr_left fun v hv => congrArg ("\n" ++ ·) (hblock v hv))
  have hbody : renderAll f.declarations =
      f.interfacesOpening ++ visitLines f.name f.variants ++ "\x7d\n" ++
        separatedBlocks block f.variants := by
    rw [hblocks, ← f.renderAll_interfaces, ← Text.joinWith_cons]
    exact renderAll_flatMap (List.cons_ne_nil _ _) (fun _ => List.cons_ne_nil _ _) f.variants
  rw [(familyText_gives h config).collect, hbody]
  simp only [withPreamble_append]

/-! ## One variant more -/

namespace Generation

/-- A variant more in the schema is a line more in the visitor interface and a block more
below it.  The block is one and the same whatever other variants there are. -/
theorem familyText_insert (name : String) :
    ∃ block : Variant → String,
      (∀ vs v, (∀ a ∈ v.fields, a.Translates) → BlockOf ⟨name, vs⟩ v (block v)) ∧
      ∀ config : Config, ∃ above,
        (∃ before, above = before ++ ("type " ++ name ++ "Visitor interface \x7b\n")) ∧
        ∀ a v b, (Family.mk name (a ++ [v] ++ b)).Translates →
          (familyText ⟨name, a ++ b⟩ config).collect.1 =
            .ok (above ++ visitLines name a ++
              (visitLines name b ++ "\x7d\n" ++ separatedBlocks block a) ++
              separatedBlocks block b) ∧
          (familyText ⟨name, a ++ [v] ++ b⟩ config).collect.1 =
            .ok (above ++ visitLines name a ++ visitLine name v ++
              (visitLines name b ++ "\x7d\n" ++ separatedBlocks block a) ++
              ("\n" ++ block v) ++ separatedBlocks block b) := by
  let empty : Family := ⟨name, []⟩
  let block (v : Variant) : String := renderAll (empty.nodeDeclarations v v.typed)
  have hblock : ∀ vs v, block v = renderAll ((Family.mk name vs).nodeDeclarations v v.typed) :=
    fun vs v => congrArg renderAll (Family.nodeDeclarations_congr rfl v v.typed)
  refine ⟨block, fun vs v hv => (blockOf_iff hv).mpr (hblock vs v), fun config => ?_⟩
  let above := withPreamble config.generator config.package empty.interfacesOpening
  have habove : ∃ before, above = before ++ ("type " ++ name ++ "Visitor interface \x7b\n") := by
    rw [← empty.opening_visitorInterface]
    exact ⟨_, withPreamble_append ..⟩
  refine ⟨above, habove, fun a v b h => ?_⟩
  have htext : ∀ vs, (Family.mk name vs).Translates →
      (familyText ⟨name, vs⟩ config).collect.1 =
        .ok (above ++ visitLines name vs ++ "\x7d\n" ++ separatedBlocks block vs) :=
    fun vs hvs => familyText_assembled hvs config fun w _ => hblock vs w
  have hfewer : (Family.mk name (a ++ b)).Translates := fun w hw =>
    h w (((List.sublist_append_left a [v]).append_right b).subset hw)
  constructor
  · rw [htext _ hfewer, visitLines_append, separatedBlocks_append]
    simp only [String.append_assoc]
  · rw [htext _ h]
    simp only [visitLines_append, visitLines_singleton, separatedBlocks_append,
      separatedBlocks_singleton, String.append_assoc]

/-- The lines that a new statement without fields adds between two others. -/
theorem familyText_insertBreak :
    let print : Variant := ⟨"Print", [⟨"Expr", "expression"⟩]⟩
    let loop : Variant := ⟨"While", [⟨"Expr", "condition"⟩, ⟨"Stmt", "body"⟩]⟩
    let line := "\tvisitBreakStmt(stmt *Break) (interface\x7b\x7d, error)\n"
    let block := "type Break struct \x7b\n\x7d\n\n" ++
      "func NewBreak() *Break \x7b\n\tstmt := new(Break)\n\treturn stmt\n\x7d\n\n" ++
      "func (stmt *Break) accept(visitor stmtVisitor) (interface\x7b\x7d, error) \x7b\n" ++
      "\treturn visitor.visitBreakStmt(stmt)\n\x7d\n"
    (Family.mk "stmt" ([print] ++ [⟨"Break", []⟩] ++ [loop])).Translates ∧
    ∃ above between below,
      (familyText ⟨"stmt", [print, loop]⟩ (Config.default "/work")).collect.1 =
        .ok (above ++ between ++ below) ∧
      (familyText ⟨"stmt", [print, ⟨"Break", []⟩, loop]⟩ (Config.default "/work")).collect.1 =
        .ok (above ++ line ++ between ++ ("\n" ++ block) ++ below) := by
  intro print loop line text
  have htranslates : (Family.mk "stmt" ([print] ++ [⟨"Break", []⟩] ++ [loop])).Translates := by
    decide
  obtain ⟨block, hblock, htexts⟩ := familyText_insert "stmt"
  obtain ⟨above, -, hinsert⟩ := htexts (Config.default "/work")
  obtain ⟨hfewer, hmore⟩ := hinsert [print] ⟨"Break", []⟩ [loop] htranslates
  have hline : visitLine "stmt" ⟨"Break", []⟩ = line := by decide
  have htext : block ⟨"Break", []⟩ = text := by
    rw [(blockOf_iff (by decide)).mp (hblock [] ⟨"Break", []⟩ (by decide))]
    decide +kernel
  rw [hline, htext] at hmore
  exact ⟨htranslates, _, _, _, hfewer, hmore⟩

end Generation

end NodeGen
