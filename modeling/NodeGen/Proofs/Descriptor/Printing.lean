/-
Printed descriptors.

The printed form of a descriptor is its symbols one after the other, with nothing
between them.  The scanner finds symbols again that are written down like this as
long as no two names meet (`scan_spelled`), so a descriptor whose names are
identifiers is read back from its printed form.  No other descriptor can be, since
the scanner gives no other names.  That makes the printed form a canonical text of
the descriptors that can be read.
-/
import Mathlib.Data.List.Chain
import Mathlib.Data.Set.Function
import NodeGen.Proofs.Descriptor.Scanning

namespace NodeGen

/-! ## Spelled symbols -/

namespace Symbol

def text : Symbol → List Char
  | name n => n.toList
  | dot => ['.']
  | opening => ['<']
  | closing => ['>']

/-- Two names that meet would be one name. -/
def Apart : Symbol → Symbol → Prop
  | name _, name _ => False
  | _, _ => True

theorem apart_closing (s : Symbol) : s.Apart closing := by
  cases s <;> trivial

theorem apart_opening (s : Symbol) : s.Apart opening := by
  cases s <;> trivial

theorem opening_apart (s : Symbol) : opening.Apart s := by
  cases s <;> trivial

/-- The symbols one after the other. -/
def spell (ss : List Symbol) : List Char := ss.flatMap text

end Symbol

namespace Piece

/-- Wherever the characters stand, the scanner adds `word` to the name before them
and finds these symbols. -/
def Reads (inName : Bool) (cs word : List Char) (ss : List Symbol) : Prop :=
  ∀ offset, ∃ pieces, scanFrom inName offset cs = .ok (word, pieces) ∧
    pieces.map Piece.symbol = ss

theorem reads_nil (inName : Bool) : Reads inName [] [] [] := fun _ => ⟨[], rfl, rfl⟩

theorem Reads.wordChar {c : Char} {rest word : List Char} {ss : List Symbol}
    (h : Reads true rest word ss) (hc : isWordChar c = true) :
    Reads true (c :: rest) (c :: word) ss := by
  intro offset
  obtain ⟨pieces, hscan, hss⟩ := h (offset + c.utf8Size)
  refine ⟨pieces, ?_, hss⟩
  simp only [scanFrom, hc, Bool.true_and, if_true, hscan]
  rfl

theorem Reads.word {word rest : List Char} {ss : List Symbol} (h : Reads true rest [] ss)
    (hword : ∀ c ∈ word, isWordChar c = true) : Reads true (word ++ rest) word ss := by
  induction word with
  | nil => exact h
  | cons c word ih =>
    have hrest := ih fun d hd => hword d (List.mem_cons_of_mem c hd)
    exact hrest.wordChar (hword c List.mem_cons_self)

theorem Reads.wordStart {c : Char} {rest word : List Char} {ss : List Symbol}
    (h : Reads true rest word ss) (hc : isWordStart c = true) :
    Reads false (c :: rest) [] (.name (String.ofList (c :: word)) :: ss) := by
  intro offset
  obtain ⟨pieces, hscan, hss⟩ := h (offset + c.utf8Size)
  have hword := isWordChar_of_isWordStart hc
  refine ⟨⟨.name (String.ofList (c :: word)), offset⟩ :: pieces, ?_, congrArg _ hss⟩
  simp only [scanFrom, Bool.false_and, Bool.false_eq_true, if_false, isBlank_of_isWordChar hword,
    punctuation?_of_isWordChar hword, hc, if_true, hscan]
  rfl

theorem Reads.name {n : String} {rest : List Char} {ss : List Symbol} (h : Reads true rest [] ss)
    (hn : isIdentifier n = true) : Reads false (n.toList ++ rest) [] (.name n :: ss) := by
  obtain ⟨c, word, hcons, hc, hword⟩ := isIdentifier_cons hn
  have hread := (h.word hword).wordStart hc
  rwa [← List.cons_append, ← hcons, String.ofList_toList] at hread

theorem Reads.punctuation {c : Char} {s : Symbol} {rest : List Char} {ss : List Symbol}
    (h : Reads false rest [] ss) (hc : punctuation? c = some s) (inName : Bool) :
    Reads inName (c :: rest) [] (s :: ss) := by
  intro offset
  obtain ⟨pieces, hscan, hss⟩ := h (offset + c.utf8Size)
  refine ⟨⟨s, offset⟩ :: pieces, ?_, congrArg _ hss⟩
  simp only [scanFrom, isWordChar_of_punctuation? hc, Bool.and_false, Bool.false_eq_true, if_false,
    isBlank_of_punctuation? hc, hc, hscan]
  rfl

/-- Induction on the symbols.  After a name the scanner is inside it, so the symbol
that comes next must not be a name. -/
theorem reads_spell {ss : List Symbol} (hnames : ∀ n, .name n ∈ ss → isIdentifier n = true)
    (happart : ss.IsChain Symbol.Apart) {inName : Bool}
    (hfirst : inName = true → ∀ n, ss.head? ≠ some (.name n)) :
    Reads inName (Symbol.spell ss) [] ss := by
  induction ss generalizing inName with
  | nil => exact reads_nil inName
  | cons s rest ih =>
    have hrest {b : Bool} (hb : b = true → ∀ n, rest.head? ≠ some (.name n)) :
        Reads b (Symbol.spell rest) [] rest :=
      ih (fun n hn => hnames n (List.mem_cons_of_mem s hn)) happart.tail hb
    have houtside : Reads false (Symbol.spell rest) [] rest := hrest fun hb => by cases hb
    have hspell : Symbol.spell (s :: rest) = s.text ++ Symbol.spell rest := List.flatMap_cons
    rw [hspell]
    cases s with
    | name n =>
      obtain rfl : inName = false := by
        cases inName with
        | false => rfl
        | true => exact absurd rfl (hfirst rfl n)
      refine (hrest fun _ m hm => ?_).name (hnames n List.mem_cons_self)
      cases rest with
      | nil => cases hm
      | cons t more =>
        cases hm
        exact happart.rel
    | dot => exact houtside.punctuation rfl inName
    | opening => exact houtside.punctuation rfl inName
    | closing => exact houtside.punctuation rfl inName

/-- Identifiers and punctuation are found again where no two names meet. -/
theorem scan_spelled {ss : List Symbol} (hnames : ∀ n, .name n ∈ ss → isIdentifier n = true)
    (happart : ss.IsChain Symbol.Apart) :
    ∃ pieces, scan (String.ofList (Symbol.spell ss)) = .ok pieces ∧
      pieces.map Piece.symbol = ss := by
  have hfirst : false = true → ∀ n, ss.head? ≠ some (.name n) := fun hb => by cases hb
  obtain ⟨pieces, hscan, hss⟩ := reads_spell hnames happart hfirst 0
  refine ⟨pieces, ?_, hss⟩
  rw [scan, String.toList_ofList, hscan]
  rfl

end Piece

namespace Descriptor

/-! ## Spelled sentences -/

theorem apart_headSymbols (q : Option String) (n : String) :
    (headSymbols q n).IsChain Symbol.Apart := by
  cases q with
  | none => exact .singleton _
  | some q => exact .cons_cons trivial (.cons_cons trivial (.singleton _))

/-- A name has punctuation around it in every sentence. -/
theorem Derivation.apart_symbols (t : Derivation) : t.symbols.IsChain Symbol.Apart := by
  induction t with
  | bare q n => exact apart_headSymbols q n
  | wrapped q n t ih =>
    have hinner : List.IsChain Symbol.Apart (t.symbols ++ [.closing]) := by
      refine List.isChain_append.mpr ⟨ih, List.IsChain.singleton _, ?_⟩
      intro s _ s' hs'
      obtain rfl : Symbol.closing = s' := by simpa using hs'
      exact s.apart_closing
    have hopening : List.IsChain Symbol.Apart (.opening :: (t.symbols ++ [.closing])) :=
      List.isChain_cons.mpr ⟨fun s _ => s.opening_apart, hinner⟩
    refine List.isChain_append.mpr ⟨apart_headSymbols q n, hopening, ?_⟩
    intro s _ s' hs'
    obtain rfl : Symbol.opening = s' := by simpa using hs'
    exact s.apart_opening

theorem parse_spelled {t : Derivation} (hwraps : t.WrapsLists)
    (hnames : ∀ n, .name n ∈ t.symbols → isIdentifier n = true) :
    ∃ pieces, Piece.scan (String.ofList (Symbol.spell t.symbols)) = .ok pieces ∧
      symbolsOf pieces = t.symbols ∧
      parse (String.ofList (Symbol.spell t.symbols)) = .ok t.descriptor := by
  obtain ⟨pieces, hscan, hsymbols⟩ := Piece.scan_spelled hnames t.apart_symbols
  exact ⟨pieces, hscan, hsymbols,
    parse_eq_ok_iff.mpr ⟨pieces, hscan, t, hsymbols.symm, hwraps, rfl⟩⟩

/-! ## Printed descriptors -/

theorem toList_render (d : Descriptor) : d.render.toList = Symbol.spell d.symbols := by
  induction d with
  | named q n =>
    cases q with
    | none => exact (List.append_nil _).symm
    | some q => simp [render, symbols, Symbol.spell, Symbol.text]
  | list d ih =>
    simp only [render, String.toList_append, ih, symbols, Symbol.spell, List.flatMap_cons,
      List.flatMap_append]
    simp [Symbol.text]

theorem isIdentifier_symbols {d : Descriptor} (h : ∀ n ∈ d.names, isIdentifier n = true)
    {n : String} (hn : .name n ∈ d.symbols) : isIdentifier n = true := by
  induction d with
  | named q m =>
    refine h n ?_
    cases q <;> simpa [symbols, names] using hn
  | list d ih =>
    have hcases : n = listName ∨ Symbol.name n ∈ d.symbols := by simpa [symbols] using hn
    rcases hcases with rfl | hinner
    · decide
    · exact ih h hinner

theorem parse_render {d : Descriptor} (h : ∀ n ∈ d.names, isIdentifier n = true) :
    parse d.render = .ok d := by
  obtain ⟨t, hwraps, hsymbols, rfl⟩ := derives_iff.mp (derives_symbols d)
  have hnames (n : String) (hn : .name n ∈ t.symbols) : isIdentifier n = true := by
    rw [hsymbols] at hn
    exact isIdentifier_symbols h hn
  obtain ⟨-, -, -, hparse⟩ := parse_spelled hwraps hnames
  rwa [hsymbols, ← toList_render, String.ofList_toList] at hparse

theorem render_injOn : Set.InjOn render {d | ∃ src, parse src = .ok d} := by
  rintro d ⟨src, hd⟩ d' ⟨src', hd'⟩ heq
  have hback := parse_render (isIdentifier_names hd)
  rw [heq, parse_render (isIdentifier_names hd')] at hback
  exact (Except.ok.inj hback).symm

/-- A descriptor is read back from its printed form if its names are identifiers, and
not otherwise.  So the printed form of what a text stands for stands for the same, and
two texts with one printed form stand for one descriptor. -/
theorem parse_render_iff :
    (∀ d : Descriptor, parse d.render = .ok d ↔ ∀ n ∈ d.names, isIdentifier n = true) ∧
    Set.InjOn render {d | ∃ src, parse src = .ok d} ∧
    (∀ src d, parse src = .ok d → parse d.render = parse src) ∧
    ∀ src src' d d', parse src = .ok d → parse src' = .ok d' →
      (d.render = d'.render ↔ parse src = parse src') := by
  refine ⟨fun d => ⟨isIdentifier_names, parse_render⟩, render_injOn, ?_, ?_⟩
  · intro src d h
    rw [h]
    exact parse_render (isIdentifier_names h)
  · intro src src' d d' h h'
    rw [h, h', Except.ok.injEq]
    exact render_injOn.eq_iff ⟨src, h⟩ ⟨src', h'⟩

end Descriptor
end NodeGen
