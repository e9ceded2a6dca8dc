/-
Reading the lines of Go source.

Names and types are words, none of which holds a blank, a comma, a dot or a
parenthesis, so what comes after a word ends it.  Bindings, signatures and
statements are read back from the text that they print as.
-/
import Mathlib.Data.List.Basic
import NodeGen.GoSource.Declaration
import NodeGen.Proofs.GoSource.Types

namespace NodeGen
namespace GoSource

abbrev Line := List Char

/-! ## Words -/

/-- The word that a line starts with, and the rest of the line. -/
def splitWord (cs : Line) : String × Line :=
  (String.ofList (cs.takeWhile isTypeChar), cs.dropWhile isTypeChar)

theorem splitWord_append {s : String} {rest : Line} (hs : IsWord s)
    (hrest : ∀ c ∈ rest.head?, isTypeChar c = false) :
    splitWord (s.toList ++ rest) = (s, rest) := by
  have htake : rest.takeWhile isTypeChar = [] := by
    cases rest with
    | nil => rfl
    | cons c cs => exact List.takeWhile_cons_of_neg (by simp [hrest c rfl])
  have hdrop : rest.dropWhile isTypeChar = rest := by
    cases rest with
    | nil => rfl
    | cons c cs => exact List.dropWhile_cons_of_neg (by simp [hrest c rfl])
  rw [splitWord, List.takeWhile_append_of_pos hs, List.dropWhile_append_of_pos hs, htake, hdrop,
    List.append_nil, String.ofList_toList]

theorem splitWord_toList {s : String} (hs : IsWord s) : splitWord s.toList = (s, []) := by
  have h : splitWord (s.toList ++ []) = (s, []) := splitWord_append hs (by simp)
  rwa [List.append_nil] at h

/-- A text that ends a word. -/
theorem ends_of_head {c : Char} {rest : Line} (hc : isTypeChar c = false) :
    ∀ d ∈ (c :: rest).head?, isTypeChar d = false := by
  intro d hd
  obtain rfl : c = d := by simpa using hd
  exact hc

theorem not_mem_of_isWord {s : String} {c : Char} (hs : IsWord s) (hc : isTypeChar c = false) :
    c ∉ s.toList := by
  intro hmem
  rw [hs c hmem] at hc
  cases hc

theorem dropPrefix?_append (text rest : Line) : (text ++ rest).dropPrefix? text = some rest :=
  List.dropPrefix?_append_of_beq rest (beq_self_eq_true text)

theorem dropPrefix?_singleton (c : Char) (rest : Line) : (c :: rest).dropPrefix? [c] = some rest :=
  dropPrefix?_append [c] rest

theorem dropPrefix?_close (rest : Line) :
    (')' :: ' ' :: rest).dropPrefix? [')', ' '] = some rest :=
  dropPrefix?_append [')', ' '] rest

theorem dropPrefix?_ne {c d : Char} {text rest : Line} (h : c ≠ d) :
    (c :: rest).dropPrefix? (d :: text) = none := by
  rw [List.dropPrefix?, if_neg (by simpa using h)]

theorem dropSuffix?_append (text rest : Line) : (rest ++ text).dropSuffix? text = some rest :=
  List.dropSuffix?_eq_some_iff.mpr ⟨text, rfl, beq_self_eq_true text⟩

theorem takeWhile_ne_append {c : Char} {s : Line} (h : c ∉ s) (rest : Line) :
    (s ++ c :: rest).takeWhile (· != c) = s := by
  have hs : ∀ d ∈ s, (d != c) = true := by
    intro d hd
    rw [bne_iff_ne]
    rintro rfl
    exact h hd
  rw [List.takeWhile_append_of_pos hs, List.takeWhile_cons_of_neg (by simp), List.append_nil]

theorem dropWhile_ne_append {c : Char} {s : Line} (h : c ∉ s) (rest : Line) :
    (s ++ c :: rest).dropWhile (· != c) = c :: rest := by
  have hs : ∀ d ∈ s, (d != c) = true := by
    intro d hd
    rw [bne_iff_ne]
    rintro rfl
    exact h hd
  rw [List.dropWhile_append_of_pos hs, List.dropWhile_cons_of_neg (by simp)]

theorem mapM_map_eq_some {α β : Type} {f : α → β} {g : β → Option α} {l : List α}
    (h : ∀ a ∈ l, g (f a) = some a) : (l.map f).mapM g = some l := by
  induction l with
  | nil => rfl
  | cons a l ih =>
    have hrest : (l.map f).mapM g = some l := ih fun b hb => h b (List.mem_cons_of_mem a hb)
    rw [List.map_cons, List.mapM_cons, h a List.mem_cons_self, hrest]
    rfl

theorem mapM_lines {α : Type} {render : α → String} {read : Line → Option α} {l : List α}
    (h : ∀ a ∈ l, read (render a).toList = some a) :
    ((l.map render).map String.toList).mapM read = some l := by
  rw [List.map_map]
  exact mapM_map_eq_some h

/-! ## Bindings -/

def isSpace (c : Char) : Bool := c == ' '

def Binding.read (cs : Line) : Option Binding :=
  let (name, rest) := splitWord (cs.dropWhile isSpace)
  let (type, rest) := splitWord (rest.dropWhile isSpace)
  if rest = [] then some ⟨name, type⟩ else none

def Binding.WellFormed (b : Binding) : Prop := isIdentifier b.name = true ∧ IsWord b.type

theorem dropWhile_spaces {s : Line} (n : Nat) (hs : ∀ c ∈ s.head?, isTypeChar c = true) :
    (List.replicate n ' ' ++ s).dropWhile isSpace = s := by
  have hspaces : ∀ c ∈ List.replicate n ' ', isSpace c = true := by
    intro c hc
    rw [List.eq_of_mem_replicate hc]
    rfl
  rw [List.dropWhile_append_of_pos hspaces]
  cases s with
  | nil => rfl
  | cons c cs =>
    refine List.dropWhile_cons_of_neg ?_
    intro hspace
    obtain rfl : c = ' ' := beq_iff_eq.mp hspace
    exact absurd (hs ' ' rfl) (by decide)

theorem head?_isIdentifier {s : String} (h : isIdentifier s = true) (rest : Line) :
    ∀ c ∈ (s.toList ++ rest).head?, isTypeChar c = true := by
  obtain ⟨c, cs, hs, hc, -⟩ := isIdentifier_cons h
  rw [hs]
  intro d hd
  obtain rfl : c = d := by simpa using hd
  exact isTypeChar_of_isWordChar (isWordChar_of_isWordStart hc)

/-- Any spaces may stand before the name and between it and the type. -/
theorem Binding.read_spaced {b : Binding} (h : b.WellFormed) (before between : Nat) :
    Binding.read (List.replicate before ' ' ++
      (b.name.toList ++ (List.replicate between ' ' ++ ' ' :: b.type.toList))) = some b := by
  have hname := isWord_of_isIdentifier h.1
  have hspaces : List.replicate between ' ' ++ ' ' :: b.type.toList =
      List.replicate (between + 1) ' ' ++ b.type.toList := by
    rw [List.replicate_succ', List.append_assoc]
    rfl
  have hstop : ∀ c ∈ (List.replicate (between + 1) ' ' ++ b.type.toList).head?,
      isTypeChar c = false := by
    intro c hc
    obtain rfl : ' ' = c := by simpa [List.replicate_succ] using hc
    decide
  have htype : ∀ c ∈ b.type.toList.head?, isTypeChar c = true :=
    fun c hc => h.2 c (List.mem_of_head? hc)
  rw [hspaces, Binding.read, dropWhile_spaces before (head?_isIdentifier h.1 _),
    splitWord_append hname hstop]
  simp only
  rw [dropWhile_spaces _ htype, splitWord_toList h.2]
  rfl

theorem Binding.toList_render (b : Binding) : b.render.toList = b.name.toList ++ ' ' :: b.type.toList := by
  rw [Binding.render, String.toList_append, String.toList_append, List.append_assoc]
  rfl

theorem Binding.read_render {b : Binding} (h : b.WellFormed) (before : Nat) :
    Binding.read (List.replicate before ' ' ++ b.render.toList) = some b := by
  rw [Binding.toList_render]
  exact Binding.read_spaced h before 0

theorem Binding.not_mem_render {b : Binding} (h : b.WellFormed) {c : Char}
    (hc : isTypeChar c = false) (hspace : c ≠ ' ') : c ∉ b.render.toList := by
  rw [Binding.toList_render]
  intro hmem
  rcases List.mem_append.mp hmem with hmem | hmem
  · exact not_mem_of_isWord (isWord_of_isIdentifier h.1) hc hmem
  · rcases List.mem_cons.mp hmem with heq | hmem
    · exact hspace heq
    · exact not_mem_of_isWord h.2 hc hmem

/-! ## Signatures -/

def readParameters (cs : Line) : Option (List Binding) :=
  if cs = [] then some [] else (cs.splitOn ',').mapM Binding.read

def Signature.read (cs : Line) : Option Signature := do
  let (name, rest) := splitWord cs
  let rest ← rest.dropPrefix? ['(']
  let parameters ← readParameters (rest.takeWhile (· != ')'))
  let result ← (rest.dropWhile (· != ')')).dropPrefix? [')', ' ']
  some ⟨name, parameters, String.ofList result⟩

structure Signature.WellFormed (s : Signature) : Prop where
  name : isIdentifier s.name = true
  parameters : ∀ b ∈ s.parameters, b.WellFormed
  result : '\n' ∉ s.result.toList

/-- Generalised over what stands before the first text, which for all texts but the
first is the space of the separator. -/
theorem toList_joinWith_comma (before : Line) (s : String) (rest : List String) :
    before ++ (Text.joinWith ", " (s :: rest)).toList =
      [','].intercalate ((before ++ s.toList) :: rest.map fun t => ' ' :: t.toList) := by
  induction rest generalizing before s with
  | nil => simp [Text.joinWith_singleton]
  | cons t rest ih =>
    have htail := ih [' '] t
    rw [Text.joinWith_cons_cons, String.toList_append, String.toList_append, List.map_cons,
      List.intercalate_cons_cons]
    simp only [List.singleton_append] at htail
    rw [← htail]
    simp only [List.append_assoc]
    rfl

theorem readParameters_render {bs : List Binding} (h : ∀ b ∈ bs, b.WellFormed) :
    readParameters (Text.joinWith ", " (bs.map Binding.render)).toList = some bs := by
  cases bs with
  | nil => rfl
  | cons b bs =>
    have hb : b.WellFormed := h b List.mem_cons_self
    have hbs : ∀ b ∈ bs, b.WellFormed := fun c hc => h c (List.mem_cons_of_mem b hc)
    have hjoin := toList_joinWith_comma [] b.render (bs.map Binding.render)
    rw [List.nil_append, List.nil_append, List.map_map] at hjoin
    have hcomma : ∀ l ∈ b.render.toList :: bs.map ((fun t => ' ' :: t.toList) ∘ Binding.render),
        ',' ∉ l := by
      intro l hl
      rcases List.mem_cons.mp hl with rfl | hl
      · exact Binding.not_mem_render hb (by decide) (by decide)
      · obtain ⟨c, hc, rfl⟩ := List.mem_map.mp hl
        have hrender : ',' ∉ c.render.toList :=
          Binding.not_mem_render (hbs c hc) (by decide) (by decide)
        simpa using hrender
    have hsplit := List.splitOn_intercalate ',' hcomma (List.cons_ne_nil _ _)
    rw [← hjoin] at hsplit
    have hne : (Text.joinWith ", " ((b :: bs).map Binding.render)).toList ≠ [] := by
      intro hnil
      rw [List.map_cons] at hnil
      rw [hnil, List.splitOn_nil, Binding.toList_render] at hsplit
      simp at hsplit
    have hfirst : Binding.read b.render.toList = some b := Binding.read_render hb 0
    have hothers : (bs.map ((fun t => ' ' :: t.toList) ∘ Binding.render)).mapM Binding.read =
        some bs :=
      mapM_map_eq_some fun c hc => Binding.read_render (hbs c hc) 1
    rw [readParameters, if_neg hne, List.map_cons, hsplit, List.mapM_cons, hfirst, hothers]
    rfl

theorem mem_joinWith {separator : String} {texts : List String} {c : Char}
    (h : c ∈ (Text.joinWith separator texts).toList) :
    c ∈ separator.toList ∨ ∃ t ∈ texts, c ∈ t.toList := by
  induction texts with
  | nil => cases h
  | cons s rest ih =>
    cases rest with
    | nil => exact .inr ⟨s, List.mem_cons_self, h⟩
    | cons t rest =>
      rw [Text.joinWith_cons_cons, String.toList_append, String.toList_append] at h
      rcases List.mem_append.mp h with h | h
      · rcases List.mem_append.mp h with h | h
        · exact .inr ⟨s, List.mem_cons_self, h⟩
        · exact .inl h
      · rcases ih h with h | ⟨u, hu, hc⟩
        · exact .inl h
        · exact .inr ⟨u, List.mem_cons_of_mem s hu, hc⟩

theorem not_mem_parameters {bs : List Binding} (h : ∀ b ∈ bs, b.WellFormed) {c : Char}
    (hc : isTypeChar c = false) (hspace : c ≠ ' ') (hcomma : c ≠ ',') :
    c ∉ (Text.joinWith ", " (bs.map Binding.render)).toList := by
  intro hmem
  rcases mem_joinWith hmem with hsep | ⟨t, ht, hmem⟩
  · rcases List.mem_cons.mp hsep with heq | hsep
    · exact hcomma heq
    · exact hspace (List.mem_singleton.mp hsep)
  · obtain ⟨b, hb, rfl⟩ := List.mem_map.mp ht
    exact Binding.not_mem_render (h b hb) hc hspace hmem

theorem Signature.toList_render (s : Signature) :
    s.render.toList = s.name.toList ++ '(' ::
      ((Text.joinWith ", " (s.parameters.map Binding.render)).toList ++
        ')' :: ' ' :: s.result.toList) := by
  simp only [render, String.toList_append, List.append_assoc]
  rfl

theorem Signature.read_render {s : Signature} (h : s.WellFormed) :
    Signature.read s.render.toList = some s := by
  have hclose : ')' ∉ (Text.joinWith ", " (s.parameters.map Binding.render)).toList :=
    not_mem_parameters h.parameters (by decide) (by decide) (by decide)
  rw [Signature.toList_render, Signature.read,
    splitWord_append (isWord_of_isIdentifier h.name) (ends_of_head (by decide))]
  simp only [dropPrefix?_singleton, Option.bind_eq_bind, Option.bind_some,
    takeWhile_ne_append hclose, dropWhile_ne_append hclose, readParameters_render h.parameters,
    dropPrefix?_close, String.ofList_toList]

/-! ## Statements -/

/-- The word that a line consists of but for its end. -/
def readWord (close cs : Line) : Option String :=
  let (word, rest) := splitWord cs
  if rest = close then some word else none

/-- What a line returns, given the word after `return`. -/
def Statement.readReturned (value : String) (rest : Line) : Option Statement :=
  if rest = [] then some (.give value)
  else do
    let rest ← rest.dropPrefix? ['.']
    let (method, rest) := splitWord rest
    let rest ← rest.dropPrefix? ['(']
    (readWord [')'] rest).map (.giveCall value method)

def Statement.read (cs : Line) : Option Statement :=
  let (word, rest) := splitWord cs
  match rest.dropPrefix? " := new(".toList with
  | some rest => (readWord [')'] rest).map (.allocate word)
  | none =>
    match rest.dropPrefix? ['.'] with
    | some rest => do
      let (field, rest) := splitWord rest
      let rest ← rest.dropPrefix? " = ".toList
      (readWord [] rest).map (.assign word field)
    | none => do
      let rest ← cs.dropPrefix? "return ".toList
      let (value, rest) := splitWord rest
      readReturned value rest

def Statement.WellFormed : Statement → Prop
  | allocate name type => IsWord name ∧ IsWord type
  | assign record field value => IsWord record ∧ IsWord field ∧ IsWord value
  | give value => IsWord value
  | giveCall receiver method argument => IsWord receiver ∧ IsWord method ∧ IsWord argument

theorem readWord_append {s : String} {close : Line} (hs : IsWord s)
    (hclose : ∀ c ∈ close.head?, isTypeChar c = false) :
    readWord close (s.toList ++ close) = some s := by
  rw [readWord, splitWord_append hs hclose]
  exact if_pos rfl

theorem readWord_toList {s : String} (hs : IsWord s) : readWord [] s.toList = some s := by
  rw [readWord, splitWord_toList hs]
  exact if_pos rfl

/-- The text of a returned value is not that of an allocation or an assignment. -/
theorem Statement.read_return {value : String} {rest : Line} (hvalue : IsWord value)
    (hrest : rest = [] ∨ ∃ more, rest = '.' :: more) :
    Statement.read ("return ".toList ++ (value.toList ++ rest)) = readReturned value rest := by
  -- The space after the keyword could start that of an allocation, but no value has a colon.
  have hfirst : (value.toList ++ rest).dropPrefix? ":= new(".toList = none := by
    cases hcs : value.toList with
    | nil => rcases hrest with rfl | ⟨more, rfl⟩ <;> rfl
    | cons c cs =>
      have hc : isTypeChar c = true := hvalue c (by rw [hcs]; exact List.mem_cons_self)
      refine dropPrefix?_ne ?_
      rintro rfl
      exact absurd hc (by decide)
  have hvalueEnds : ∀ c ∈ rest.head?, isTypeChar c = false := by
    rcases hrest with rfl | ⟨more, rfl⟩
    · simp
    · exact ends_of_head (by decide)
  have hword : splitWord ("return ".toList ++ (value.toList ++ rest)) =
      ("return", ' ' :: (value.toList ++ rest)) :=
    splitWord_append (s := "return") (isWord_of_all (by decide)) (ends_of_head (by decide))
  have hallocate : (' ' :: (value.toList ++ rest)).dropPrefix? " := new(".toList = none := hfirst
  have hassign : (' ' :: (value.toList ++ rest)).dropPrefix? ['.'] = none :=
    dropPrefix?_ne (by decide)
  rw [Statement.read, hword]
  simp only [hallocate, hassign, dropPrefix?_append, Option.bind_eq_bind, Option.bind_some,
    splitWord_append hvalue hvalueEnds]

theorem Statement.read_render {s : Statement} (h : s.WellFormed) :
    Statement.read s.render.toList = some s := by
  cases s with
  | allocate name type =>
    obtain ⟨hname, htype⟩ := h
    have hrender : (allocate name type).render.toList =
        name.toList ++ (" := new(".toList ++ (type.toList ++ [')'])) := by
      simp only [render, String.toList_append, List.append_assoc]
      rfl
    have hword : splitWord (name.toList ++ (" := new(".toList ++ (type.toList ++ [')']))) =
        (name, " := new(".toList ++ (type.toList ++ [')'])) :=
      splitWord_append hname (ends_of_head (by decide))
    rw [hrender, Statement.read, hword]
    have htypeWord : readWord [')'] (type.toList ++ [')']) = some type :=
      readWord_append htype (ends_of_head (by decide))
    simp only [dropPrefix?_append, htypeWord, Option.map_some]
  | assign record field value =>
    obtain ⟨hrecord, hfield, hvalue⟩ := h
    have hrender : (assign record field value).render.toList =
        record.toList ++ '.' :: (field.toList ++ (" = ".toList ++ value.toList)) := by
      simp only [render, String.toList_append, List.append_assoc]
      rfl
    have hallocate (rest : Line) : ('.' :: rest).dropPrefix? " := new(".toList = none :=
      dropPrefix?_ne (by decide)
    have hfieldWord : splitWord (field.toList ++ (" = ".toList ++ value.toList)) =
        (field, " = ".toList ++ value.toList) :=
      splitWord_append hfield (ends_of_head (by decide))
    rw [hrender, Statement.read, splitWord_append hrecord (ends_of_head (by decide))]
    simp only [hallocate, dropPrefix?_singleton, hfieldWord, dropPrefix?_append, Option.bind_eq_bind,
      Option.bind_some, readWord_toList hvalue, Option.map_some]
  | give value =>
    have hrender : (give value).render.toList = "return ".toList ++ (value.toList ++ []) := by
      rw [render, String.toList_append, List.append_nil]
    rw [hrender, Statement.read_return h (.inl rfl)]
    exact if_pos rfl
  | giveCall receiver method argument =>
    obtain ⟨hreceiver, hmethod, hargument⟩ := h
    have hrender : (giveCall receiver method argument).render.toList =
        "return ".toList ++ (receiver.toList ++
          '.' :: (method.toList ++ '(' :: (argument.toList ++ [')']))) := by
      simp only [render, String.toList_append, List.append_assoc]
      rfl
    have hmethodWord : splitWord (method.toList ++ '(' :: (argument.toList ++ [')'])) =
        (method, '(' :: (argument.toList ++ [')'])) :=
      splitWord_append hmethod (ends_of_head (by decide))
    have hargumentWord : readWord [')'] (argument.toList ++ [')']) = some argument :=
      readWord_append hargument (ends_of_head (by decide))
    rw [hrender, Statement.read_return hreceiver (.inr ⟨_, rfl⟩), readReturned,
      if_neg (List.cons_ne_nil _ _)]
    simp only [dropPrefix?_singleton, hmethodWord, hargumentWord, Option.bind_eq_bind, Option.bind_some,
      Option.map_some]

end GoSource
end NodeGen
