/-
The layout of Go source.

A declaration is a block of lines, and a file is blocks with one blank line between
neighbours.  Blank lines come from the joints alone, so it takes one lemma about lists of
paragraphs to see that no two of them meet.  What an item looks like at its ends is all that
has to be known of the text in it.
-/
import Mathlib.Data.List.Chain
import NodeGen.Proofs.GoSource.Reader

namespace NodeGen
namespace GoSource

/-! ## Ends of lines -/

/-- The line begins with a character that shows. -/
def Begins (line : Line) : Prop := ∃ c rest, line = c :: rest ∧ Text.isBlank c = false

/-- The line ends with a character that shows. -/
def Ends (line : Line) : Prop := ∃ front c, line = front ++ [c] ∧ Text.isBlank c = false

/-- The line has no white space at its end. -/
def Trimmed (line : Line) : Prop := ∀ c ∈ line.getLast?, Text.isBlank c = false

theorem Begins.append {line : Line} (h : Begins line) (rest : Line) : Begins (line ++ rest) := by
  obtain ⟨c, more, rfl, hc⟩ := h
  exact ⟨c, more ++ rest, rfl, hc⟩

theorem Ends.append {line : Line} (h : Ends line) (front : Line) : Ends (front ++ line) := by
  obtain ⟨more, c, rfl, hc⟩ := h
  exact ⟨front ++ more, c, (List.append_assoc front more [c]).symm, hc⟩

theorem Ends.trimmed {line : Line} (h : Ends line) : Trimmed line := by
  obtain ⟨front, c, rfl, hc⟩ := h
  intro d hd
  rw [List.getLast?_concat] at hd
  exact Option.mem_some.mp hd ▸ hc

theorem trimmed_blank : Trimmed [] := fun _ hc => nomatch hc

theorem begins_of_isIdentifier {s : String} (h : isIdentifier s = true) : Begins s.toList := by
  obtain ⟨c, rest, hs, hc, -⟩ := isIdentifier_cons h
  exact ⟨c, rest, hs, isBlank_of_isWordChar (isWordChar_of_isWordStart hc)⟩

theorem ends_of_isIdentifier {s : String} (h : isIdentifier s = true) : Ends s.toList := by
  obtain ⟨c, rest, hs, -, -⟩ := isIdentifier_cons h
  have hne : s.toList ≠ [] := by simp [hs]
  have hlast := isWordChar_of_isIdentifier h _ (List.getLast_mem hne)
  exact ⟨s.toList.dropLast, s.toList.getLast hne, (List.dropLast_append_getLast hne).symm,
    isBlank_of_isWordChar hlast⟩

/-! ## Items -/

theorem Signature.begins_render {s : Signature} (h : isIdentifier s.name = true) :
    Begins s.render.toList := by
  rw [Signature.toList_render]
  exact (begins_of_isIdentifier h).append _

theorem Signature.ends_render {s : Signature} (h : Ends s.result.toList) :
    Ends s.render.toList := by
  rw [Signature.toList_render]
  show Ends (s.name.toList ++ (['('] ++ (_ ++ ([')', ' '] ++ s.result.toList))))
  exact (((h.append _).append _).append _).append _

/-- The words at the ends of the statement are there. -/
def Statement.Shown : Statement → Prop
  | allocate name _ => Begins name.toList
  | assign record _ value => Begins record.toList ∧ Ends value.toList
  | give value => Ends value.toList
  | giveCall _ _ _ => True

theorem Statement.begins_render {s : Statement} (h : s.Shown) : Begins s.render.toList := by
  have hreturn : Begins "return ".toList := ⟨'r', "eturn ".toList, by decide, by decide⟩
  cases s with
  | allocate name type =>
    simp only [render, String.toList_append, List.append_assoc]
    exact Begins.append h _
  | assign record field value =>
    simp only [render, String.toList_append, List.append_assoc]
    exact Begins.append h.1 _
  | give value =>
    simp only [render, String.toList_append]
    exact hreturn.append _
  | giveCall receiver method argument =>
    simp only [render, String.toList_append, List.append_assoc]
    exact hreturn.append _

theorem Statement.ends_render {s : Statement} (h : s.Shown) : Ends s.render.toList := by
  have hclose : Ends ")".toList := ⟨[], ')', by decide, by decide⟩
  cases s with
  | allocate name type =>
    simp only [render, String.toList_append]
    exact hclose.append _
  | assign record field value =>
    simp only [render, String.toList_append]
    exact Ends.append h.2 _
  | give value =>
    simp only [render, String.toList_append]
    exact Ends.append h _
  | giveCall receiver method argument =>
    simp only [render, String.toList_append]
    exact hclose.append _

/-- The items of the declaration begin and end with characters that show. -/
def Declaration.Shown (d : Declaration) : Prop :=
  ∀ line ∈ d.lines, Begins line.toList ∧ Ends line.toList

theorem shown_signatures {methods : List Signature}
    (h : ∀ s ∈ methods, isIdentifier s.name = true ∧ Ends s.result.toList) (name : String) :
    (Declaration.interface name methods).Shown := by
  intro line hline
  obtain ⟨s, hs, rfl⟩ := List.mem_map.mp hline
  obtain ⟨hname, hresult⟩ := h s hs
  exact ⟨Signature.begins_render hname, Signature.ends_render hresult⟩

theorem shown_fields {fields : List Binding}
    (h : ∀ b ∈ fields, isIdentifier b.name = true ∧ Ends b.type.toList) (name : String) :
    (Declaration.struct name fields).Shown := by
  intro line hline
  obtain ⟨b, hb, rfl⟩ := List.mem_map.mp hline
  obtain ⟨hname, htype⟩ := h b hb
  simp only [Text.padTo, String.toList_append]
  exact ⟨(((begins_of_isIdentifier hname).append _).append _).append _, htype.append _⟩

theorem shown_statements {body : List Statement} (h : ∀ s ∈ body, s.Shown) :
    ∀ line ∈ body.map Statement.render, Begins line.toList ∧ Ends line.toList := by
  intro line hline
  obtain ⟨s, hs, rfl⟩ := List.mem_map.mp hline
  exact ⟨Statement.begins_render (h s hs), Statement.ends_render (h s hs)⟩

/-! ## Blocks -/

/-- A line in the braces of a block. -/
def IsItem (line : Line) : Prop := ∃ rest, line = '\t' :: rest ∧ Begins rest

/-- What a block starts with, and how many lines stand in its braces. -/
structure Outline where
  opening : String
  size : Nat
  deriving DecidableEq, Repr

/-- A header and the lines in the braces that it opens. -/
structure Outline.Opens (o : Outline) (header : Line) (body : List Line) : Prop where
  opening : o.opening.toList <+: header
  flush : Begins header
  brace : " \x7b".toList <:+ header
  items : ∀ line ∈ body, IsItem line
  size : body.length = o.size

/-- The lines are a block of that outline. -/
def Outline.Fits (o : Outline) (block : List Line) : Prop :=
  ∃ header body, block = header :: (body ++ [['\x7d']]) ∧ o.Opens header body

theorem Declaration.begins_header (d : Declaration) : Begins d.header.toList := by
  have htype : Begins "type ".toList := ⟨'t', "ype ".toList, by decide, by decide⟩
  have hfunc : Begins "func ".toList := ⟨'f', "unc ".toList, by decide, by decide⟩
  have hmethod : Begins "func (".toList := ⟨'f', "unc (".toList, by decide, by decide⟩
  cases d with
  | interface name methods =>
    simp only [header, String.toList_append, List.append_assoc]
    exact htype.append _
  | struct name fields =>
    simp only [header, String.toList_append, List.append_assoc]
    exact htype.append _
  | function signature body =>
    simp only [header, String.toList_append]
    exact hfunc.append _
  | method receiver signature body =>
    simp only [header, String.toList_append, List.append_assoc]
    exact hmethod.append _

theorem fits_paragraph {o : Outline} {d : Declaration} {rest : Line} (h : d.Shown)
    (hopening : o.opening.toList ++ rest = d.header.toList ++ " \x7b".toList)
    (hsize : d.lines.length = o.size) : o.Fits (paragraph d) := by
  refine ⟨_, _, rfl, ?_⟩
  exact
    { opening := ⟨rest, hopening⟩
      flush := d.begins_header.append _
      brace := List.suffix_append _ _
      items := by
        intro line hline
        obtain ⟨item, hitem, rfl⟩ := List.mem_map.mp hline
        exact ⟨item.toList, rfl, (h item hitem).1⟩
      size := by rw [List.length_map, hsize] }

theorem trimmed_paragraph {d : Declaration} (h : d.Shown) : ∀ line ∈ paragraph d, Trimmed line := by
  have hbrace : Ends " \x7b".toList := ⟨[' '], '\x7b', by decide, by decide⟩
  have hclose : Ends ['\x7d'] := ⟨[], '\x7d', rfl, by decide⟩
  intro line hline
  rcases List.mem_append.mp hline with hline | hline
  · rcases List.mem_cons.mp hline with rfl | hline
    · exact (hbrace.append _).trimmed
    · obtain ⟨item, hitem, rfl⟩ := List.mem_map.mp hline
      exact ((h item hitem).2.append ['\t']).trimmed
  · obtain rfl := List.mem_singleton.mp hline
    exact hclose.trimmed

/-! ## Blank lines -/

theorem head?_intercalate {p : List Line} (hp : p ≠ []) (rest : List (List Line)) :
    ([[]].intercalate (p :: rest)).head? = p.head? := by
  cases rest with
  | nil => rw [List.intercalate_singleton]
  | cons q more =>
    rw [List.intercalate_cons_cons, List.append_assoc, List.head?_append_of_ne_nil p hp]

/-- A blank line stands between two paragraphs, and those begin and end with lines that are
not blank. -/
theorem isChain_intercalate {paragraphs : List (List Line)}
    (h : ∀ p ∈ paragraphs, p ≠ [] ∧ [] ∉ p) :
    ([[]].intercalate paragraphs).IsChain (fun a b => a ≠ [] ∨ b ≠ []) := by
  induction paragraphs with
  | nil => exact .nil
  | cons p rest ih =>
    obtain ⟨hp, hrest⟩ := List.forall_mem_cons.mp h
    have hfull : ∀ line ∈ p, line ≠ [] := fun line hline heq => hp.2 (heq ▸ hline)
    have hchain : p.IsChain (fun a b => a ≠ [] ∨ b ≠ []) :=
      (List.pairwise_of_forall_mem_list fun a ha _ _ => .inl (hfull a ha)).isChain
    cases rest with
    | nil => rwa [List.intercalate_singleton]
    | cons q more =>
      obtain ⟨hq, hblank⟩ := h q (List.mem_cons_of_mem p List.mem_cons_self)
      rw [List.intercalate_cons_cons, List.isChain_append, List.isChain_append]
      refine ⟨⟨hchain, .singleton _, ?_⟩, ih hrest, ?_⟩
      · intro a ha b _
        exact .inl (hfull a (List.mem_of_mem_getLast? ha))
      · intro a _ b hb
        rw [head?_intercalate hq] at hb
        exact .inr fun heq => hblank (heq ▸ List.mem_of_mem_head? hb)

theorem not_infix_intercalate {paragraphs : List (List Line)}
    (h : ∀ p ∈ paragraphs, p ≠ [] ∧ [] ∉ p) : ¬ [[], []] <:+: [[]].intercalate paragraphs := by
  intro hinfix
  have hchain := List.IsChain.infix (isChain_intercalate h) hinfix
  have hpair := List.isChain_cons_cons.mp hchain
  rcases hpair.1 with hne | hne <;> exact hne rfl

/-! ## Files -/

/-- The text consists of these lines and is laid out as a file should be. -/
structure Tidy (lines : List Line) (text : String) : Prop where
  text_eq : text.toList = unlines lines
  unbroken : ∀ line ∈ lines, '\n' ∉ line
  trimmed : ∀ line ∈ lines, Trimmed line
  spaced : ¬ [[], []] <:+: lines
  ending : ∃ front c, text.toList = front ++ [c, '\n'] ∧ c ≠ '\n'

theorem closes_renderAll {ds : List Declaration} (h : ds ≠ []) :
    ∃ front, (renderAll ds).toList = front ++ ['\x7d', '\n'] := by
  induction ds with
  | nil => exact absurd rfl h
  | cons d rest ih =>
    by_cases hrest : rest = []
    · subst hrest
      refine ⟨(d.header ++ " \x7b\n" ++ indented d.lines).toList, ?_⟩
      show (d.header ++ " \x7b\n" ++ indented d.lines ++ "\x7d\n").toList = _
      rw [String.toList_append]
      rfl
    · obtain ⟨front, hfront⟩ := ih hrest
      have happend : renderAll (d :: rest) = renderAll [d] ++ "\n" ++ renderAll rest :=
        renderAll_append (List.cons_ne_nil d []) hrest
      refine ⟨(renderAll [d] ++ "\n").toList ++ front, ?_⟩
      rw [happend, String.toList_append, hfront, List.append_assoc]

/-- A file is paragraphs too, the first two of them in its preamble. -/
theorem preambleLines_append (generator package : String) {paragraphs : List (List Line)}
    (h : paragraphs ≠ []) :
    ∃ first second, first ≠ [] ∧ second ≠ [] ∧
      preambleLines generator package ++ [[]].intercalate paragraphs =
        [[]].intercalate ([first] :: [second] :: paragraphs) := by
  refine ⟨"package ".toList ++ package.toList,
    "// This code is generated by `".toList ++ (generator.toList ++ "`.".toList), ?_, ?_, ?_⟩
  · exact fun heq => nomatch (List.append_eq_nil_iff.mp heq).1
  · exact fun heq => nomatch (List.append_eq_nil_iff.mp heq).1
  · cases paragraphs with
    | nil => exact absurd rfl h
    | cons p rest =>
      rw [List.intercalate_cons_cons, List.intercalate_cons_cons]
      rfl

theorem trimmed_preambleLines {generator package : String} (h : isIdentifier package = true) :
    ∀ line ∈ preambleLines generator package, Trimmed line := by
  have hdot : Ends "`.".toList := ⟨['`'], '.', by decide, by decide⟩
  intro line hline
  simp only [preambleLines, List.mem_cons, List.not_mem_nil, or_false] at hline
  rcases hline with rfl | rfl | rfl | rfl
  · exact ((ends_of_isIdentifier h).append _).trimmed
  · exact trimmed_blank
  · exact ((hdot.append _).append _).trimmed
  · exact trimmed_blank

theorem tidy_withPreamble {generator package : String} {ds : List Declaration} (hds : ds ≠ [])
    (hgenerator : '\n' ∉ generator.toList) (hpackage : isIdentifier package = true)
    (hwell : ∀ d ∈ ds, d.WellFormed) (hshown : ∀ d ∈ ds, d.Shown) :
    Tidy (preambleLines generator package ++ [[]].intercalate (ds.map paragraph))
      (withPreamble generator package (renderAll ds)) where
  text_eq := toList_withPreamble generator package ds
  unbroken := by
    have hword := isWord_of_isIdentifier hpackage
    exact newline_not_mem_file hgenerator (not_mem_of_isWord hword (by decide)) hwell
  trimmed := by
    intro line hline
    rcases List.mem_append.mp hline with hline | hline
    · exact trimmed_preambleLines hpackage line hline
    · rcases mem_intercalate hline with rfl | ⟨p, hp, hline⟩
      · exact trimmed_blank
      · obtain ⟨d, hd, rfl⟩ := List.mem_map.mp hp
        exact trimmed_paragraph (hshown d hd) line hline
  spaced := by
    have hne : ds.map paragraph ≠ [] := fun hnil => hds (List.map_eq_nil_iff.mp hnil)
    obtain ⟨first, second, hfirst, hsecond, heq⟩ := preambleLines_append generator package hne
    have hline {line : Line} (h : line ≠ []) : [line] ≠ [] ∧ [] ∉ [line] :=
      ⟨List.cons_ne_nil line [], fun hmem => h (List.mem_singleton.mp hmem).symm⟩
    rw [heq]
    refine not_infix_intercalate ?_
    intro p hp
    rcases List.mem_cons.mp hp with rfl | hp
    · exact hline hfirst
    rcases List.mem_cons.mp hp with rfl | hp
    · exact hline hsecond
    · obtain ⟨d, -, rfl⟩ := List.mem_map.mp hp
      exact ⟨List.append_ne_nil_of_right_ne_nil _ (List.cons_ne_nil _ _),
        blank_not_mem_paragraph d⟩
  ending := by
    obtain ⟨front, hfront⟩ := closes_renderAll hds
    obtain ⟨above, habove⟩ : ∃ above, withPreamble generator package (renderAll ds) =
        above ++ renderAll ds := ⟨_, rfl⟩
    refine ⟨above.toList ++ front, '\x7d', ?_, by decide⟩
    rw [habove, String.toList_append, hfront, List.append_assoc]

end GoSource
end NodeGen
