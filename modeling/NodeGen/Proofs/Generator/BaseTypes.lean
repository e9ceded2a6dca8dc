/-
Base types and the interfaces of the families.

What a base type is, is read off one table, and what interfaces are declared, off another.
The name of an interface is the capitalized name of its family, that of a base type the
lowered and then capitalized name in the descriptor.  The tables agree, and so do the names,
since the families have names in lower case.  So a name that is printed without a pointer
is that of an interface.
-/
import NodeGen.Proofs.Generator.Selection

namespace NodeGen

open GoSource

/-! ## Innermost types -/

namespace GoType

/-- What is inside all the lists, along with how it is held there. -/
def innermost : GoType → Ownership → FieldType
  | dynamic, held => ⟨dynamic, held⟩
  | base name, held => ⟨base name, held⟩
  | named name, held => ⟨named name, held⟩
  | list element ownership, _ => element.innermost ownership

theorem innermost_ofName (x : String) (held : Ownership) :
    (ofName x).innermost held = ⟨ofName x, held⟩ := by
  unfold ofName
  split
  · rfl
  split <;> rfl

theorem type_innermost (d : Descriptor) (held : Ownership) :
    ((ofDescriptor d).innermost held).type = ofName d.innermostName := by
  induction d generalizing held with
  | named q name => exact congrArg FieldType.type (innermost_ofName name held)
  | list d ih => exact ih _

theorem printable_innermost {t : GoType} {held : Ownership} (h : t.Printable held) :
    (t.innermost held).Printable := by
  induction t generalizing held with
  | list element ownership ih => exact ih h
  | _ => exact h

end GoType

def FieldType.innermost (t : FieldType) : FieldType := t.type.innermost t.ownership

/-! ## Base types -/

theorem lowerAscii_builtin : ∀ f ∈ builtinFamilies, Text.lowerAscii f.name = f.name := by decide

theorem not_knownFamily_dynamicName : ¬ KnownFamily Descriptor.dynamicName := by decide

namespace GoType

/-- The base type of a name is called as the interface of the family is, whatever the case. -/
theorem ofName_of_answersTo {f : Family} {x : String} (h : f.AnswersTo x) :
    ofName x = base f.baseName := by
  have hknown : KnownFamily x := ⟨f, h⟩
  have hdynamic : x ≠ Descriptor.dynamicName := by
    rintro rfl
    exact not_knownFamily_dynamicName hknown
  have hname : Text.lowerAscii x = f.name := by
    rw [← Text.sameLetters_iff.mp h.2, lowerAscii_builtin f h.1]
  rw [ofName, if_neg hdynamic, if_pos (knownFamily_iff.mp hknown), hname]
  rfl

theorem ofName_of_unknown {x : String} (h : ¬ KnownFamily x) (b : String) :
    ofName x ≠ base b := by
  rw [ofName, if_neg fun hbase => h (knownFamily_iff.mpr hbase)]
  split <;> exact nofun

theorem ofName_eq_base_iff {x b : String} :
    ofName x = base b ↔ ∃ f, Family.builtin? x = some f ∧ f.baseName = b := by
  constructor
  · intro hbase
    by_cases hknown : KnownFamily x
    · obtain ⟨f, hf⟩ := hknown
      rw [ofName_of_answersTo hf, base.injEq] at hbase
      exact ⟨f, Family.builtin?_eq_some_iff.mpr hf, hbase⟩
    · exact absurd hbase (ofName_of_unknown hknown b)
  · rintro ⟨f, hf, rfl⟩
    exact ofName_of_answersTo (Family.builtin?_eq_some_iff.mp hf)

end GoType

/-! ## Names without a pointer -/

/-- The text ends in the name, and there is no asterisk before it. -/
def NamesBare (text : Line) (name : String) : Prop :=
  isIdentifier name = true ∧ ∃ front, text = front ++ name.toList ∧
    ∀ c ∈ front.getLast?, isWordChar c = false ∧ c ≠ '*'

/-- A text ends in one word only. -/
theorem lastWord_unique {front front' word word' : Line} (h : front ++ word = front' ++ word')
    (hword : ∀ c ∈ word, isWordChar c = true) (hword' : ∀ c ∈ word', isWordChar c = true)
    (hfront : ∀ c ∈ front.getLast?, isWordChar c = false)
    (hfront' : ∀ c ∈ front'.getLast?, isWordChar c = false) : front = front' ∧ word = word' := by
  -- What one front has more than the other ends the front and is part of a word.
  have hempty {more start rest : Line} (hstart : ∀ c ∈ (start ++ more).getLast?, isWordChar c = false)
      (hrest : ∀ c ∈ more ++ rest, isWordChar c = true) : more = [] := by
    rcases List.eq_nil_or_concat more with hnil | ⟨init, c, rfl⟩
    · exact hnil
    · have hc := hstart c (by simp)
      rw [hrest c (by simp)] at hc
      cases hc
  rcases List.append_eq_append_iff.mp h with ⟨more, rfl, rfl⟩ | ⟨more, rfl, rfl⟩
  · rw [hempty hfront' hword, List.append_nil, List.nil_append]
    exact ⟨rfl, rfl⟩
  · rw [hempty hfront hword', List.append_nil, List.nil_append]
    exact ⟨rfl, rfl⟩

theorem namesBare_name {held : Ownership} {name b : String} (h : isIdentifier name = true) :
    NamesBare (held.render.toList ++ name.toList) b ↔ held = .value ∧ name = b := by
  constructor
  · rintro ⟨hb, front, htext, hfront⟩
    have hmark : ∀ c ∈ held.render.toList.getLast?, isWordChar c = false := by
      cases held with
      | value => exact nofun
      | owned =>
        intro c hc
        obtain rfl : '*' = c := Option.some.inj hc
        decide
    obtain ⟨rfl, hname⟩ := lastWord_unique htext (isWordChar_of_isIdentifier h)
      (isWordChar_of_isIdentifier hb) hmark fun c hc => (hfront c hc).1
    refine ⟨?_, String.toList_inj.mp hname⟩
    cases held with
    | value => rfl
    | owned => exact absurd rfl (hfront '*' rfl).2
  · rintro ⟨rfl, rfl⟩
    exact ⟨h, [], rfl, nofun⟩

theorem not_namesBare_dynamic (front : Line) (b : String) :
    ¬ NamesBare (front ++ "interface\x7b\x7d".toList) b := by
  rintro ⟨hb, start, htext, -⟩
  obtain ⟨c, rest, hcons, -, -⟩ := isIdentifier_cons hb
  have hlast : b.toList.getLast? = some '\x7d' := by
    have hends := congrArg List.getLast? htext
    rw [List.getLast?_append, List.getLast?_append, hcons] at hends
    rw [hcons]
    simpa using hends.symm
  have hword := isWordChar_of_isIdentifier hb _ (List.mem_of_getLast? hlast)
  exact absurd hword (by decide)

/-- The brackets of a list leave what is bare in its elements bare. -/
theorem namesBare_brackets {mark text : Line} (hmark : mark.getLast? = some ']') {b : String} :
    NamesBare (mark ++ text) b ↔ NamesBare text b := by
  constructor
  · rintro ⟨hb, front, htext, hfront⟩
    rcases List.append_eq_append_iff.mp htext with ⟨more, rfl, rfl⟩ | ⟨more, rfl, hname⟩
    · refine ⟨hb, more, rfl, fun c hc => hfront c ?_⟩
      rw [List.getLast?_append, hc]
      rfl
    · rcases List.eq_nil_or_concat more with rfl | ⟨init, c, rfl⟩
      · exact ⟨hb, [], hname.symm, nofun⟩
      · obtain rfl : c = ']' := by simpa using hmark
        have hword := isWordChar_of_isIdentifier hb ']' (by rw [hname]; simp)
        exact absurd hword (by decide)
  · rintro ⟨hb, front, rfl, hfront⟩
    refine ⟨hb, mark ++ front, (List.append_assoc ..).symm, fun c hc => ?_⟩
    rw [List.getLast?_append, hmark] at hc
    cases hlast : front.getLast? with
    | none =>
      rw [hlast] at hc
      obtain rfl : ']' = c := Option.some.inj hc
      decide
    | some d =>
      rw [hlast] at hc
      exact hfront c (hlast.trans hc)

/-- The bare names in the text of a type are those of its base types. -/
theorem GoType.namesBare_iff {t : GoType} {held : Ownership} (h : t.Printable held) {b : String} :
    NamesBare (held.render.toList ++ t.render.toList) b ↔ (t.innermost held).type = base b := by
  induction t generalizing held with
  | dynamic =>
    refine iff_of_false (not_namesBare_dynamic _ b) ?_
    intro hbase
    cases hbase
  | base name =>
    obtain ⟨rfl, hname⟩ := h
    rw [render, namesBare_name hname, innermost, base.injEq]
    exact and_iff_right rfl
  | named name =>
    obtain ⟨rfl, hname⟩ := h
    rw [render, namesBare_name hname, innermost]
    constructor
    · rintro ⟨hvalue, -⟩
      cases hvalue
    · intro hbase
      cases hbase
  | list element ownership ih =>
    have hbrackets : (held.render.toList ++ "[]".toList).getLast? = some ']' := by
      cases held <;> rfl
    have htext : held.render.toList ++ (list element ownership).render.toList =
        held.render.toList ++ "[]".toList ++ (ownership.render.toList ++ element.render.toList) := by
      simp only [render, String.toList_append, List.append_assoc]
    rw [htext, namesBare_brackets hbrackets]
    exact ih h

theorem FieldType.namesBare_iff {t : FieldType} (h : t.Printable) {b : String} :
    NamesBare t.render.toList b ↔ t.innermost.type = .base b := by
  rw [render, String.toList_append]
  exact GoType.namesBare_iff h

/-! ## Declared interfaces -/

def interfaceLine (name : String) : Line := ("type " ++ name ++ " interface \x7b").toList

/-- A line of the text opens the declaration of an interface of that name. -/
def Declares (text name : String) : Prop := interfaceLine name ∈ linesOf text.toList

theorem interfaceLine_mem_paragraph {b name : String} {methods : List Signature} :
    interfaceLine b ∈ paragraph (.interface name methods) ↔ b = name := by
  have hheader (x : String) : (Declaration.interface x methods).header.toList ++ " \x7b".toList =
      interfaceLine x := by
    simp only [Declaration.header, interfaceLine, String.toList_append, List.append_assoc]
    rfl
  have hfirst : (interfaceLine b).head? = some 't' := by
    simp only [interfaceLine, String.toList_append, List.append_assoc]
    rfl
  constructor
  · intro hmem
    rcases List.mem_append.mp hmem with hmem | hmem
    · rcases List.mem_cons.mp hmem with hname | hmem
      · rw [hheader name, interfaceLine, interfaceLine, String.toList_inj, String.append_left_inj,
          String.append_right_inj] at hname
        exact hname
      · obtain ⟨line, -, hline⟩ := List.mem_map.mp hmem
        rw [← hline] at hfirst
        cases hfirst
    · rw [List.mem_singleton.mp hmem] at hfirst
      cases hfirst
  · rintro rfl
    rw [← hheader b]
    exact List.mem_append_left _ List.mem_cons_self

/-- The interfaces of a family are the base interface and the visitor interface. -/
theorem declares_interfaces_iff {f : Family} (h : f.Named) {b : String} :
    Declares (renderAll f.interfaces) b ↔ b = f.baseName ∨ b = f.visitorName := by
  have hwellFormed : ∀ d ∈ f.interfaces, d.WellFormed :=
    fun d hd => h.declarations d (List.mem_append_left _ hd)
  have hlines : linesOf (renderAll f.interfaces).toList =
      paragraph f.baseInterface ++ [[]] ++ paragraph f.visitorInterface := by
    rw [toList_renderAll, linesOf_unlines (newline_not_mem_intercalate hwellFormed),
      Family.interfaces, List.map_cons, List.map_singleton, List.intercalate_cons_cons,
      List.intercalate_singleton]
  have hblank : interfaceLine b ≠ [] := by
    simp [interfaceLine]
  rw [Declares, hlines, List.mem_append, List.mem_append, List.mem_singleton,
    Family.baseInterface, Family.visitorInterface, interfaceLine_mem_paragraph,
    interfaceLine_mem_paragraph, or_iff_left hblank]

theorem declares_baseName {f : Family} (h : f ∈ builtinFamilies) :
    Declares (renderAll f.interfaces) f.baseName :=
  (declares_interfaces_iff (named_builtin f h)).mpr (.inl rfl)

/-! ## Fields -/

namespace FieldType

theorem type_innermost_of_parse {src : String} {d : Descriptor} {t : FieldType}
    (hd : Descriptor.parse src = .ok d) (ht : parse src = .ok t) :
    t.innermost.type = GoType.ofName d.innermostName := by
  rw [parse, hd] at ht
  cases ht
  rw [← Descriptor.innermostName_stripQualifiers]
  exact GoType.type_innermost _ _

/-- The base types in fields are the interfaces that are declared for the families. -/
theorem base_iff_declared {src : String} {d : Descriptor} (h : Descriptor.parse src = .ok d) :
    ∃ t, parse src = .ok t ∧
      (∀ b, t.innermost.type = .base b ↔
        ∃ f, Family.builtin? d.innermostName = some f ∧ f.baseName = b) ∧
      (∀ f, Family.builtin? d.innermostName = some f →
        f ∈ builtinFamilies ∧ Declares (renderAll f.interfaces) f.baseName) ∧
      (∀ b, NamesBare t.render.toList b →
        ∃ f ∈ builtinFamilies, f.baseName = b ∧ Declares (renderAll f.interfaces) b) ∧
      ∀ f ∈ builtinFamilies, Text.sameLetters f.name d.innermostName = true →
        t.innermost = ⟨.base f.baseName, .value⟩ ∧ NamesBare t.render.toList f.baseName := by
  obtain ⟨t, ht⟩ : ∃ t, parse src = .ok t := ⟨ofDescriptor d, by rw [parse, h]; rfl⟩
  have hprintable := printable_of_parse ht
  have hbase (b : String) : t.innermost.type = .base b ↔
      ∃ f, Family.builtin? d.innermostName = some f ∧ f.baseName = b := by
    rw [type_innermost_of_parse h ht]
    exact GoType.ofName_eq_base_iff
  have hdeclared (f : Family) (hf : Family.builtin? d.innermostName = some f) :
      f ∈ builtinFamilies ∧ Declares (renderAll f.interfaces) f.baseName := by
    have hmem := (Family.builtin?_eq_some_iff.mp hf).1
    exact ⟨hmem, declares_baseName hmem⟩
  refine ⟨t, ht, hbase, hdeclared, ?_, ?_⟩
  · intro b hbare
    obtain ⟨f, hf, rfl⟩ := (hbase b).mp ((namesBare_iff hprintable).mp hbare)
    exact ⟨f, (hdeclared f hf).1, rfl, (hdeclared f hf).2⟩
  · intro f hmem hsame
    have hleaf : t.innermost.type = .base f.baseName :=
      (hbase _).mpr ⟨f, Family.builtin?_eq_some_iff.mpr ⟨hmem, hsame⟩, rfl⟩
    have hvalue : t.innermost.ownership = .value := by
      have hheld : t.innermost.type.Printable t.innermost.ownership :=
        GoType.printable_innermost hprintable
      rw [hleaf] at hheld
      exact hheld.1
    exact ⟨by rw [← hleaf, ← hvalue], (namesBare_iff hprintable).mpr hleaf⟩

/-- Capitals inside a list and under a qualifier. -/
theorem base_iff_declared_capitals :
    Descriptor.parse "List<ast.EXPR>" = .ok (.list (.named (some "ast") "EXPR")) ∧
    ∃ t, parse "List<ast.EXPR>" = .ok t ∧ t.innermost = ⟨.base "Expr", .value⟩ ∧
      NamesBare t.render.toList "Expr" ∧ Declares (renderAll exprFamily.interfaces) "Expr" := by
  have hparse : Descriptor.parse "List<ast.EXPR>" = .ok (.list (.named (some "ast") "EXPR")) := by
    decide
  obtain ⟨t, ht, -, hdeclared, -, hvalue⟩ := base_iff_declared hparse
  obtain ⟨hleaf, hbare⟩ := hvalue exprFamily (by decide) (by decide)
  exact ⟨hparse, t, ht, hleaf, hbare, (hdeclared exprFamily rfl).2⟩

end FieldType
end NodeGen
