/-
Columns of structs.

The lines of a struct are padded to one width, so all types start in one column, counted
in characters (`inColumn_lines`).  Two measures meet in it.  The width is the largest
length of a name in bytes, and the padding counts characters.  So the column is the one
right after the longest name exactly if a name with the most bytes is plain ASCII.
-/
import Mathlib.Data.List.MinMax
import Mathlib.Order.Nat
import NodeGen.Proofs.Generator.Faithful

namespace NodeGen

open GoSource

/-! ## Lengths of texts -/

namespace Text

/-- The largest length in characters, zero when there is no text. -/
def longest (texts : List String) : Nat :=
  (texts.map String.length).foldr max 0

def IsAscii (s : String) : Prop := ∀ c ∈ s.toList, c.toNat < 0x80

instance (s : String) : Decidable (IsAscii s) :=
  List.decidableBAll (fun c : Char => c.toNat < 0x80) s.toList

theorem length_le_utf8Len (cs : List Char) : cs.length ≤ String.utf8Len cs := by
  induction cs with
  | nil => exact Nat.le_refl 0
  | cons c rest ih =>
    have hc := c.utf8Size_pos
    rw [List.length_cons, String.utf8Len_cons]
    omega

/-- A character takes more than one byte unless it is ASCII. -/
theorem utf8Len_eq_length_iff (cs : List Char) :
    String.utf8Len cs = cs.length ↔ ∀ c ∈ cs, c.toNat < 0x80 := by
  induction cs with
  | nil => simp
  | cons c rest ih =>
    have hc := c.utf8Size_pos
    have hrest := length_le_utf8Len rest
    have hascii : c.utf8Size = 1 ↔ c.toNat < 0x80 := by
      rw [Char.utf8Size_eq_one_iff, UInt32.le_iff_toNat_le, ← Nat.lt_succ_iff]
      rfl
    rw [List.forall_mem_cons, ← ih, ← hascii, String.utf8Len_cons, List.length_cons]
    omega

theorem length_le_byteSize (s : String) : s.length ≤ byteSize s := by
  rw [← String.length_toList, byteSize, ← String.utf8Len_toList]
  exact length_le_utf8Len s.toList

theorem byteSize_eq_length_iff (s : String) : byteSize s = s.length ↔ IsAscii s := by
  rw [← String.length_toList, byteSize, ← String.utf8Len_toList]
  exact utf8Len_eq_length_iff s.toList

variable {texts : List String}

theorem exists_of_foldr_max {size : String → Nat} (h : texts ≠ []) :
    ∃ s ∈ texts, size s = (texts.map size).foldr max 0 := by
  have hne : texts.map size ≠ [] := fun hnil => h (List.map_eq_nil_iff.mp hnil)
  exact List.mem_map.mp (List.maximum_mem (List.foldr_max_of_ne_nil hne).symm)

theorem length_le_longest {s : String} (h : s ∈ texts) : s.length ≤ longest texts :=
  List.le_max_of_le (List.mem_map_of_mem h) (Nat.le_refl s.length)

theorem longest_le_widest (texts : List String) : longest texts ≤ widest texts := by
  apply List.max_le_of_forall_le
  intro n hn
  obtain ⟨s, hs, rfl⟩ := List.mem_map.mp hn
  exact Nat.le_trans (length_le_byteSize s) (byteSize_le_widest hs)

/-- The two measures agree on a list exactly if a text with the most bytes has as many
characters. -/
theorem longest_eq_widest_iff (h : texts ≠ []) :
    longest texts = widest texts ↔ ∃ s ∈ texts, byteSize s = widest texts ∧ IsAscii s := by
  constructor
  · intro heq
    obtain ⟨s, hs, hlength⟩ : ∃ s ∈ texts, s.length = longest texts := exists_of_foldr_max h
    have hle := byteSize_le_widest hs
    have hge := length_le_byteSize s
    have hsize : byteSize s = s.length := by omega
    exact ⟨s, hs, by omega, (byteSize_eq_length_iff s).mp hsize⟩
  · rintro ⟨s, hs, hsize, hascii⟩
    have hlength := (byteSize_eq_length_iff s).mpr hascii
    have hge := length_le_longest hs
    have hle := longest_le_widest texts
    omega

end Text

/-! ## Lines of a struct -/

def spaces (n : Nat) : String := String.ofList (List.replicate n ' ')

theorem length_spaces (n : Nat) : (spaces n).length = n := by
  rw [spaces, String.length_ofList, List.length_replicate]

theorem append_spaces (s : String) (n : Nat) : s ++ spaces n ++ " " = s ++ spaces (n + 1) := by
  have hspace : " " = String.ofList [' '] := rfl
  rw [String.append_assoc, spaces, spaces, hspace, ← String.ofList_append, ← List.replicate_succ']

/-- The line is the name of the field, a gap, and the type of the field from that column
on.  Columns count characters from the start of the line. -/
def TypeAt (column : Nat) (a : Field) (line : String) : Prop :=
  ∃ gap t, FieldType.parse a.type = .ok t ∧ line = a.name ++ spaces gap ++ t.render ∧
    0 < gap ∧ a.name.length + gap = column

/-- Each field has a line, and all of their types start in that column. -/
def InColumn (column : Nat) (fields : List Field) (lines : List String) : Prop :=
  List.Forall₂ (TypeAt column) fields lines

theorem TypeAt.unique {column column' : Nat} {a : Field} {line : String}
    (h : TypeAt column a line) (h' : TypeAt column' a line) : column = column' := by
  obtain ⟨gap, t, ht, hline, -, rfl⟩ := h
  obtain ⟨gap', t', ht', hline', -, rfl⟩ := h'
  obtain rfl : t = t' := Except.ok.inj (ht.symm.trans ht')
  have hlength := congrArg String.length (hline.symm.trans hline')
  simp only [String.length_append, length_spaces] at hlength
  omega

theorem InColumn.unique {column column' : Nat} {fields : List Field} {lines : List String}
    (hne : fields ≠ []) (h : InColumn column fields lines) (h' : InColumn column' fields lines) :
    column = column' := by
  cases h with
  | nil => exact absurd rfl hne
  | cons hline _ =>
    cases h' with
    | cons hline' _ => exact hline.unique hline'

theorem typeAt_padTo {a : Field} {typed : TypedField} {width : Nat} (h : a.LowersTo typed)
    (hwidth : a.name.length ≤ width) :
    TypeAt (width + 1) a (Text.padTo width typed.name ++ " " ++ typed.type.render) := by
  obtain ⟨hname, hparse⟩ := h
  refine ⟨width - a.name.length + 1, typed.type, hparse, ?_, Nat.succ_pos _, by omega⟩
  show typed.name ++ spaces (width - typed.name.length) ++ " " ++ typed.type.render = _
  rw [hname, append_spaces]

theorem inColumn_padTo {fields : List Field} {typed : List TypedField} {width : Nat}
    (h : List.Forall₂ Field.LowersTo fields typed)
    (hwidth : ∀ a ∈ fields, a.name.length ≤ width) :
    InColumn (width + 1) fields
      (typed.map fun b => Text.padTo width b.name ++ " " ++ b.type.render) := by
  induction h with
  | nil => exact .nil
  | cons hab _ ih =>
    obtain ⟨ha, hrest⟩ := List.forall_mem_cons.mp hwidth
    exact .cons (typeAt_padTo hab ha) (ih hrest)

theorem inColumn_lines {v : Variant} (h : ∀ a ∈ v.fields, a.Translates) :
    InColumn (Text.widest v.fieldNames + 1) v.fields
      (Family.structDeclaration v v.typed).lines := by
  have hwidth : ∀ a ∈ v.fields, a.name.length ≤ Text.widest v.fieldNames := by
    intro a ha
    exact Nat.le_trans (Text.length_le_byteSize a.name)
      (Text.byteSize_le_widest (List.mem_map_of_mem ha))
  have hlines := inColumn_padTo (Variant.lowersTo_lowered h).2 hwidth
  show InColumn _ _ (fieldLines v.bindings)
  rw [fieldLines, Variant.map_name_bindings h, Variant.bindings, List.map_map]
  exact hlines

theorem renderAll_nodeDeclarations (f : Family) (v : Variant) (typed : List TypedField) :
    renderAll (f.nodeDeclarations v typed) =
      block ("type " ++ v.name ++ " struct") (Family.structDeclaration v typed).lines ++
        ("\n" ++ renderAll [f.constructor v typed, f.acceptMethod v]) := by
  have happend := renderAll_append (List.cons_ne_nil (Family.structDeclaration v typed) [])
    (List.cons_ne_nil (f.constructor v typed) [f.acceptMethod v])
  rw [← String.append_assoc]
  exact happend

/-- The types of a struct start in one column.  It is the one that leaves one space after
the longest name exactly if some name with the most bytes is ASCII. -/
theorem Generation.variant_aligned_iff {f : Family} {v : Variant} (hfields : v.fields ≠ [])
    (h : ∀ a ∈ v.fields, a.Translates) :
    ∃ ds lines rest, (variant f v).collect.1 = .ok ds ∧
      renderAll ds = block ("type " ++ v.name ++ " struct") lines ++ rest ∧
      InColumn (Text.widest v.fieldNames + 1) v.fields lines ∧
      (InColumn (Text.longest v.fieldNames + 1) v.fields lines ↔
        ∃ n ∈ v.fieldNames, Text.byteSize n = Text.widest v.fieldNames ∧ Text.IsAscii n) := by
  have hcolumn := inColumn_lines h
  refine ⟨_, _, _, variant_collect f h, renderAll_nodeDeclarations f v v.typed, hcolumn, ?_⟩
  have hnames : v.fieldNames ≠ [] := fun hnil => hfields (List.map_eq_nil_iff.mp hnil)
  rw [← Text.longest_eq_widest_iff hnames]
  constructor
  · intro hlongest
    exact Nat.succ.inj (InColumn.unique hfields hlongest hcolumn)
  · intro heq
    rw [heq]
    exact hcolumn

theorem Generation.classVariant_aligned :
    ∃ v ∈ stmtFamily.variants, v.name = "Class" ∧ v.fields ≠ [] ∧ (∀ a ∈ v.fields, a.Translates) ∧
      ∃ ds lines rest, (variant stmtFamily v).collect.1 = .ok ds ∧
        renderAll ds = block "type Class struct" lines ++ rest ∧
        InColumn (Text.longest ["name", "superclass", "methods"] + 1) v.fields lines := by
  let v : Variant := ⟨"Class", [⟨"Token", "name"⟩, ⟨"Expr.Variable", "superclass"⟩,
    ⟨"List<Stmt.Function>", "methods"⟩]⟩
  have hmem : v ∈ stmtFamily.variants := by decide
  have hfields : v.fields ≠ [] := List.cons_ne_nil _ _
  have htranslates := translates_builtin stmtFamily (by decide) v hmem
  obtain ⟨ds, lines, rest, hds, htext, -, haligned⟩ :=
    variant_aligned_iff (f := stmtFamily) hfields htranslates
  exact ⟨v, hmem, rfl, hfields, htranslates, ds, lines, rest, hds, htext,
    haligned.mpr ⟨"superclass", by decide, by decide, by decide⟩⟩

/-- The name with the most bytes here is not the one with the most characters, which is
followed by two spaces. -/
theorem Generation.umlaut_not_aligned :
    let f : Family := ⟨"shape", [⟨"Box", [⟨"Token", "größe"⟩, ⟨"Expr", "breite"⟩]⟩]⟩
    let v : Variant := ⟨"Box", [⟨"Token", "größe"⟩, ⟨"Expr", "breite"⟩]⟩
    let lines := ["größe   *Token", "breite  Expr"]
    v ∈ f.variants ∧ Text.longest v.fieldNames = "breite".length ∧
      ∃ ds rest, (variant f v).collect.1 = .ok ds ∧
        renderAll ds = block "type Box struct" lines ++ rest ∧
        ¬ InColumn (Text.longest v.fieldNames + 1) v.fields lines := by
  intro f v lines
  have htranslates : ∀ a ∈ v.fields, a.Translates := by decide
  have hlines : (Family.structDeclaration v v.typed).lines = lines := by decide
  have hcolumn : InColumn 8 v.fields lines := hlines ▸ inColumn_lines htranslates
  refine ⟨List.mem_singleton_self v, by decide, f.nodeDeclarations v v.typed,
    "\n" ++ renderAll [f.constructor v v.typed, f.acceptMethod v],
    variant_collect f htranslates, ?_, fun haligned => ?_⟩
  · rw [renderAll_nodeDeclarations, hlines]
    rfl
  · have hfields : v.fields ≠ [] := List.cons_ne_nil _ _
    exact absurd (InColumn.unique hfields haligned hcolumn) (by decide)

end NodeGen
