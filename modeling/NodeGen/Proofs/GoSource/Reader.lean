/-
Reading Go source.

A declaration is read off its header line and the lines of its body, and a text of
declarations off its paragraphs, which are what stands between blank lines.  No
line of a block is blank, since it holds a header, starts with a tab or closes a
brace.
-/
import NodeGen.Proofs.GoSource.Lines

namespace NodeGen
namespace GoSource

/-! ## Declarations -/

namespace Declaration

/-- The function whose line this is but for the keyword.  A receiver in
parentheses makes it a method. -/
def readFunction (cs : Line) (body : List Statement) : Option Declaration :=
  match cs.dropPrefix? ['('] with
  | some rest => do
    let receiver ← Binding.read (rest.takeWhile (· != ')'))
    let rest ← (rest.dropWhile (· != ')')).dropPrefix? [')', ' ']
    let signature ← Signature.read rest
    some (.method receiver signature body)
  | none => (Signature.read cs).map (.function · body)

def read (header : Line) (body : List Line) : Option Declaration :=
  match header.dropPrefix? "type ".toList with
  | some rest =>
    let (name, rest) := splitWord rest
    if rest = " interface".toList then (body.mapM Signature.read).map (.interface name)
    else if rest = " struct".toList then (body.mapM Binding.read).map (.struct name)
    else none
  | none => do
    let rest ← header.dropPrefix? "func ".toList
    let body ← body.mapM Statement.read
    readFunction rest body

def WellFormed : Declaration → Prop
  | interface name methods => IsWord name ∧ ∀ s ∈ methods, s.WellFormed
  | struct name fields => IsWord name ∧ ∀ b ∈ fields, b.WellFormed
  | function signature body => signature.WellFormed ∧ ∀ s ∈ body, s.WellFormed
  | method receiver signature body =>
    receiver.WellFormed ∧ signature.WellFormed ∧ ∀ s ∈ body, s.WellFormed

theorem readFunction_function {signature : Signature} (h : signature.WellFormed)
    (body : List Statement) :
    readFunction signature.render.toList body = some (function signature body) := by
  obtain ⟨c, cs, hname, hc, -⟩ := isIdentifier_cons h.name
  have hopen : signature.render.toList.dropPrefix? ['('] = none := by
    rw [Signature.toList_render, hname]
    refine dropPrefix?_ne ?_
    rintro rfl
    exact absurd hc (by decide)
  rw [readFunction, hopen]
  simp only [Signature.read_render h, Option.map_some]

theorem readFunction_method {receiver : Binding} {signature : Signature}
    (hreceiver : receiver.WellFormed) (hsignature : signature.WellFormed) (body : List Statement) :
    readFunction ('(' :: (receiver.render.toList ++ ')' :: ' ' :: signature.render.toList)) body =
      some (method receiver signature body) := by
  have hclose : ')' ∉ receiver.render.toList :=
    Binding.not_mem_render hreceiver (by decide) (by decide)
  have hbinding : Binding.read receiver.render.toList = some receiver :=
    Binding.read_render hreceiver 0
  rw [readFunction, dropPrefix?_singleton]
  simp only [takeWhile_ne_append hclose, dropWhile_ne_append hclose, dropPrefix?_close, hbinding,
    Signature.read_render hsignature, Option.bind_eq_bind, Option.bind_some]

theorem read_fieldLines {fields : List Binding} (h : ∀ b ∈ fields, b.WellFormed) :
    ((fieldLines fields).map String.toList).mapM Binding.read = some fields := by
  rw [fieldLines, List.map_map]
  refine mapM_map_eq_some ?_
  intro b hb
  have hline (width : Nat) : (Text.padTo width b.name ++ " " ++ b.type).toList =
      List.replicate 0 ' ' ++
        (b.name.toList ++ (List.replicate (width - b.name.length) ' ' ++ ' ' :: b.type.toList)) := by
    simp only [Text.padTo, String.toList_append, String.toList_ofList, List.append_assoc]
    rfl
  rw [Function.comp_apply, hline]
  exact Binding.read_spaced (h b hb) 0 _

theorem dropPrefix?_func (rest : Line) :
    ("func ".toList ++ rest).dropPrefix? "type ".toList = none :=
  dropPrefix?_ne (by decide)

theorem read_render {d : Declaration} (h : d.WellFormed) :
    read d.header.toList (d.lines.map String.toList) = some d := by
  cases d with
  | interface name methods =>
    obtain ⟨hname, hmethods⟩ := h
    have hheader : (interface name methods).header.toList =
        "type ".toList ++ (name.toList ++ " interface".toList) := by
      simp only [header, String.toList_append, List.append_assoc]
    have hword : splitWord (name.toList ++ " interface".toList) = (name, " interface".toList) :=
      splitWord_append hname (ends_of_head (by decide))
    have hbody : ((methods.map Signature.render).map String.toList).mapM Signature.read =
        some methods := mapM_lines fun s hs => Signature.read_render (hmethods s hs)
    rw [hheader, read, dropPrefix?_append]
    simp only [hword, if_true, lines, hbody, Option.map_some]
  | struct name fields =>
    obtain ⟨hname, hfields⟩ := h
    have hheader : (struct name fields).header.toList =
        "type ".toList ++ (name.toList ++ " struct".toList) := by
      simp only [header, String.toList_append, List.append_assoc]
    have hword : splitWord (name.toList ++ " struct".toList) = (name, " struct".toList) :=
      splitWord_append hname (ends_of_head (by decide))
    have hkind : " struct".toList ≠ " interface".toList := by decide
    rw [hheader, read, dropPrefix?_append]
    simp only [hword, if_neg hkind, if_true, lines, read_fieldLines hfields, Option.map_some]
  | function signature body =>
    obtain ⟨hsignature, hstatements⟩ := h
    have hheader : (function signature body).header.toList =
        "func ".toList ++ signature.render.toList := by
      rw [header, String.toList_append]
    have hbody : ((body.map Statement.render).map String.toList).mapM Statement.read =
        some body := mapM_lines fun s hs => Statement.read_render (hstatements s hs)
    rw [hheader, read, dropPrefix?_func]
    simp only [dropPrefix?_append, lines, hbody, readFunction_function hsignature,
      Option.bind_eq_bind, Option.bind_some]
  | method receiver signature body =>
    obtain ⟨hreceiver, hsignature, hstatements⟩ := h
    have hheader : (method receiver signature body).header.toList =
        "func ".toList ++
          '(' :: (receiver.render.toList ++ ')' :: ' ' :: signature.render.toList) := by
      simp only [header, String.toList_append, List.append_assoc]
      rfl
    have hbody : ((body.map Statement.render).map String.toList).mapM Statement.read =
        some body := mapM_lines fun s hs => Statement.read_render (hstatements s hs)
    rw [hheader, read, dropPrefix?_func]
    simp only [dropPrefix?_append, lines, hbody, readFunction_method hreceiver hsignature,
      Option.bind_eq_bind, Option.bind_some]

end Declaration

/-! ## Paragraphs -/

/-- The lines of a block without their ends. -/
def paragraph (d : Declaration) : List Line :=
  (d.header.toList ++ " \x7b".toList) :: d.lines.map (fun line => '\t' :: line.toList) ++ [['\x7d']]

def readBody : List Line → Option (List Line)
  | [['\x7d']] => some []
  | ('\t' :: line) :: rest => (readBody rest).map (line :: ·)
  | _ => none

def readParagraph : List Line → Option Declaration
  | [] => none
  | header :: rest => do
    let header ← header.dropSuffix? " \x7b".toList
    let body ← readBody rest
    Declaration.read header body

theorem readBody_map (lines : List Line) :
    readBody (lines.map (fun line => '\t' :: line) ++ [['\x7d']]) = some lines := by
  induction lines with
  | nil => rfl
  | cons line rest ih =>
    rw [List.map_cons, List.cons_append, readBody, ih]
    rfl

theorem readParagraph_paragraph {d : Declaration} (h : d.WellFormed) :
    readParagraph (paragraph d) = some d := by
  have hbody := readBody_map (d.lines.map String.toList)
  rw [List.map_map] at hbody
  show (do
    let header ← (d.header.toList ++ " \x7b".toList).dropSuffix? " \x7b".toList
    let body ← readBody (d.lines.map ((fun line => '\t' :: line) ∘ String.toList) ++ [['\x7d']])
    Declaration.read header body) = some d
  rw [dropSuffix?_append, hbody]
  exact Declaration.read_render h

/-! ## Texts of lines -/

/-- The lines of a text, each of which a newline ends. -/
def linesOf (cs : Line) : List Line := (cs.splitOn '\n').dropLast

def unlines (lines : List Line) : Line := lines.flatMap (· ++ ['\n'])

theorem unlines_append (a b : List Line) : unlines (a ++ b) = unlines a ++ unlines b :=
  List.flatMap_append

theorem linesOf_cons {line : Line} (h : '\n' ∉ line) (rest : Line) :
    linesOf (line ++ '\n' :: rest) = line :: linesOf rest := by
  rw [linesOf, List.splitOn_append_cons_self_of_not_mem h,
    List.dropLast_cons_of_ne_nil (List.splitOn_ne_nil _ _)]
  rfl

theorem linesOf_unlines {lines : List Line} (h : ∀ line ∈ lines, '\n' ∉ line) :
    linesOf (unlines lines) = lines := by
  induction lines with
  | nil => rfl
  | cons line rest ih =>
    have hrest : linesOf (unlines rest) = rest := ih fun l hl => h l (List.mem_cons_of_mem line hl)
    have hunlines : unlines (line :: rest) = line ++ '\n' :: unlines rest := by
      rw [unlines, List.flatMap_cons, List.append_assoc]
      rfl
    rw [hunlines, linesOf_cons (h line List.mem_cons_self), hrest]

theorem toList_indented (lines : List String) :
    (indented lines).toList = unlines (lines.map fun line => '\t' :: line.toList) := by
  induction lines with
  | nil => rfl
  | cons line rest ih =>
    rw [List.map_cons, unlines, List.flatMap_cons, ← unlines, ← ih]
    simp only [indented, String.toList_append, List.append_assoc]
    rfl

theorem toList_render (d : Declaration) : d.render.toList = unlines (paragraph d) := by
  have hparagraph : unlines (paragraph d) = d.header.toList ++ (" \x7b\n".toList ++
      (unlines (d.lines.map fun line => '\t' :: line.toList) ++ "\x7d\n".toList)) := by
    rw [paragraph, List.cons_append, unlines, List.flatMap_cons, ← unlines, unlines_append]
    simp only [List.append_assoc]
    rfl
  rw [hparagraph, ← toList_indented]
  simp only [Declaration.render, block, String.toList_append, List.append_assoc]

theorem toList_renderAll (ds : List Declaration) :
    (renderAll ds).toList = unlines ([[]].intercalate (ds.map paragraph)) := by
  -- A blank line stands between neighbours only, so the last declaration is a case of its own.
  induction ds with
  | nil => rfl
  | cons d ds ih =>
    cases ds with
    | nil =>
      rw [List.map_singleton, List.intercalate_singleton, ← toList_render]
      rfl
    | cons e ds =>
      rw [List.map_cons, List.map_cons, List.intercalate_cons_cons, ← List.map_cons,
        unlines_append, unlines_append, ← ih, ← toList_render]
      rw [renderAll, List.map_cons, List.map_cons, Text.joinWith_cons_cons, String.toList_append,
        String.toList_append]
      rfl

/-! ## Lines of declarations -/

theorem Binding.newline_not_mem {b : Binding} (h : b.WellFormed) : '\n' ∉ b.render.toList :=
  Binding.not_mem_render h (by decide) (by decide)

theorem Signature.newline_not_mem {s : Signature} (h : s.WellFormed) :
    '\n' ∉ s.render.toList := by
  have hname : '\n' ∉ s.name.toList :=
    not_mem_of_isWord (isWord_of_isIdentifier h.name) (by decide)
  have hparameters : '\n' ∉ (Text.joinWith ", " (s.parameters.map Binding.render)).toList :=
    not_mem_parameters h.parameters (by decide) (by decide) (by decide)
  rw [Signature.toList_render]
  simp [hname, hparameters, h.result]

theorem Statement.newline_not_mem {s : Statement} (h : s.WellFormed) :
    '\n' ∉ s.render.toList := by
  have hword {w : String} (hw : IsWord w) : '\n' ∉ w.toList := not_mem_of_isWord hw (by decide)
  cases s with
  | allocate name type =>
    obtain ⟨hname, htype⟩ := h
    simp [render, hword hname, hword htype]
  | assign record field value =>
    obtain ⟨hrecord, hfield, hvalue⟩ := h
    simp [render, hword hrecord, hword hfield, hword hvalue]
  | give value => simp [render, hword h]
  | giveCall receiver method argument =>
    obtain ⟨hreceiver, hmethod, hargument⟩ := h
    simp [render, hword hreceiver, hword hmethod, hword hargument]

namespace Declaration

theorem newline_not_mem_header {d : Declaration} (h : d.WellFormed) :
    '\n' ∉ d.header.toList := by
  cases d with
  | interface name methods =>
    have hname : '\n' ∉ name.toList := not_mem_of_isWord h.1 (by decide)
    simp [header, hname]
  | struct name fields =>
    have hname : '\n' ∉ name.toList := not_mem_of_isWord h.1 (by decide)
    simp [header, hname]
  | function signature body => simp [header, Signature.newline_not_mem h.1]
  | method receiver signature body =>
    obtain ⟨hreceiver, hsignature, -⟩ := h
    simp [header, Binding.newline_not_mem hreceiver, Signature.newline_not_mem hsignature]

theorem newline_not_mem_lines {d : Declaration} (h : d.WellFormed) :
    ∀ line ∈ d.lines, '\n' ∉ line.toList := by
  intro line hline
  cases d with
  | interface name methods =>
    obtain ⟨s, hs, rfl⟩ := List.mem_map.mp hline
    exact Signature.newline_not_mem (h.2 s hs)
  | struct name fields =>
    obtain ⟨b, hb, rfl⟩ := List.mem_map.mp hline
    obtain ⟨hname, htype⟩ := h.2 b hb
    have hname' : '\n' ∉ b.name.toList :=
      not_mem_of_isWord (isWord_of_isIdentifier hname) (by decide)
    have htype' : '\n' ∉ b.type.toList := not_mem_of_isWord htype (by decide)
    simp [Text.padTo, hname', htype']
  | function signature body =>
    obtain ⟨s, hs, rfl⟩ := List.mem_map.mp hline
    exact Statement.newline_not_mem (h.2 s hs)
  | method receiver signature body =>
    obtain ⟨s, hs, rfl⟩ := List.mem_map.mp hline
    exact Statement.newline_not_mem (h.2.2 s hs)

end Declaration

theorem newline_not_mem_paragraph {d : Declaration} (h : d.WellFormed) :
    ∀ line ∈ paragraph d, '\n' ∉ line := by
  intro line hline
  rcases List.mem_append.mp hline with hline | hline
  · rcases List.mem_cons.mp hline with rfl | hline
    · simp [Declaration.newline_not_mem_header h]
    · obtain ⟨body, hbody, rfl⟩ := List.mem_map.mp hline
      simp [Declaration.newline_not_mem_lines h body hbody]
  · obtain rfl := List.mem_singleton.mp hline
    decide

theorem blank_not_mem_paragraph (d : Declaration) : [] ∉ paragraph d := by
  simp [paragraph]

/-! ## Files -/

def readParagraphs (lines : List Line) : Option (List Declaration) :=
  if lines = [] then some [] else (lines.splitOn []).mapM readParagraph

def readAll (text : String) : Option (List Declaration) := readParagraphs (linesOf text.toList)

theorem readParagraphs_intercalate {ds : List Declaration} (h : ∀ d ∈ ds, d.WellFormed) :
    readParagraphs ([[]].intercalate (ds.map paragraph)) = some ds := by
  cases ds with
  | nil => rfl
  | cons d ds =>
    have hblank : ∀ p ∈ (d :: ds).map paragraph, [] ∉ p := by
      intro p hp
      obtain ⟨e, -, rfl⟩ := List.mem_map.mp hp
      exact blank_not_mem_paragraph e
    have hsplit := List.splitOn_intercalate [] hblank (by simp)
    have hne : [[]].intercalate ((d :: ds).map paragraph) ≠ [] := by
      intro hnil
      rw [hnil, List.splitOn_nil] at hsplit
      exact List.cons_ne_nil _ _ (List.cons.inj hsplit).1.symm
    rw [readParagraphs, if_neg hne, hsplit]
    exact mapM_map_eq_some fun e he => readParagraph_paragraph (h e he)

/-- A line of a file is one of a paragraph or stands between two of them. -/
theorem mem_intercalate {paragraphs : List (List Line)} {line : Line}
    (h : line ∈ [[]].intercalate paragraphs) : line = [] ∨ ∃ p ∈ paragraphs, line ∈ p := by
  induction paragraphs with
  | nil => cases h
  | cons p rest ih =>
    cases rest with
    | nil =>
      rw [List.intercalate_singleton] at h
      exact .inr ⟨p, List.mem_singleton_self p, h⟩
    | cons q more =>
      rw [List.intercalate_cons_cons] at h
      rcases List.mem_append.mp h with h | h
      · rcases List.mem_append.mp h with h | h
        · exact .inr ⟨p, List.mem_cons_self, h⟩
        · exact .inl (List.mem_singleton.mp h)
      · rcases ih h with h | ⟨r, hr, h⟩
        · exact .inl h
        · exact .inr ⟨r, List.mem_cons_of_mem p hr, h⟩

theorem newline_not_mem_intercalate {ds : List Declaration} (h : ∀ d ∈ ds, d.WellFormed) :
    ∀ line ∈ [[]].intercalate (ds.map paragraph), '\n' ∉ line := by
  intro line hline
  rcases mem_intercalate hline with rfl | ⟨p, hp, hline⟩
  · exact List.not_mem_nil
  · obtain ⟨d, hd, rfl⟩ := List.mem_map.mp hp
    exact newline_not_mem_paragraph (h d hd) line hline

theorem readAll_renderAll {ds : List Declaration} (h : ∀ d ∈ ds, d.WellFormed) :
    readAll (renderAll ds) = some ds := by
  rw [readAll, toList_renderAll, linesOf_unlines (newline_not_mem_intercalate h),
    readParagraphs_intercalate h]

structure SourceFile where
  package : String
  generator : String
  declarations : List Declaration

def SourceFile.read (text : String) : Option SourceFile :=
  match linesOf text.toList with
  | package :: [] :: generator :: [] :: rest => do
    let package ← package.dropPrefix? "package ".toList
    let generator ← generator.dropPrefix? "// This code is generated by `".toList
    let generator ← generator.dropSuffix? "`.".toList
    let declarations ← readParagraphs rest
    some ⟨String.ofList package, String.ofList generator, declarations⟩
  | _ => none

/-- The lines above the declarations of a file. -/
def preambleLines (generator package : String) : List Line :=
  ["package ".toList ++ package.toList, [],
    "// This code is generated by `".toList ++ (generator.toList ++ "`.".toList), []]

theorem toList_withPreamble (generator package : String) (ds : List Declaration) :
    (withPreamble generator package (renderAll ds)).toList =
      unlines (preambleLines generator package ++ [[]].intercalate (ds.map paragraph)) := by
  rw [unlines_append, ← toList_renderAll]
  simp only [withPreamble, String.toList_append, preambleLines, unlines, List.flatMap_cons,
    List.flatMap_nil, List.append_assoc, List.nil_append]
  rfl

theorem newline_not_mem_file {generator package : String} {ds : List Declaration}
    (hgenerator : '\n' ∉ generator.toList) (hpackage : '\n' ∉ package.toList)
    (h : ∀ d ∈ ds, d.WellFormed) :
    ∀ line ∈ preambleLines generator package ++ [[]].intercalate (ds.map paragraph),
      '\n' ∉ line := by
  intro line hline
  rcases List.mem_append.mp hline with hline | hline
  · simp only [preambleLines, List.mem_cons, List.not_mem_nil, or_false] at hline
    rcases hline with rfl | rfl | rfl | rfl
    · simp [hpackage]
    · exact List.not_mem_nil
    · simp [hgenerator]
    · exact List.not_mem_nil
  · exact newline_not_mem_intercalate h line hline

theorem SourceFile.read_withPreamble {generator package : String} {ds : List Declaration}
    (hgenerator : '\n' ∉ generator.toList) (hpackage : '\n' ∉ package.toList)
    (h : ∀ d ∈ ds, d.WellFormed) :
    SourceFile.read (withPreamble generator package (renderAll ds)) =
      some ⟨package, generator, ds⟩ := by
  rw [SourceFile.read, toList_withPreamble,
    linesOf_unlines (newline_not_mem_file hgenerator hpackage h)]
  show (do
    let package ← ("package ".toList ++ package.toList).dropPrefix? "package ".toList
    let generator ← ("// This code is generated by `".toList ++
      (generator.toList ++ "`.".toList)).dropPrefix? "// This code is generated by `".toList
    let generator ← generator.dropSuffix? "`.".toList
    let declarations ← readParagraphs ([[]].intercalate (ds.map paragraph))
    some (SourceFile.mk (String.ofList package) (String.ofList generator) declarations)) = _
  simp only [dropPrefix?_append, dropSuffix?_append, readParagraphs_intercalate h,
    Option.bind_eq_bind, Option.bind_some, String.ofList_toList]

end GoSource
end NodeGen
