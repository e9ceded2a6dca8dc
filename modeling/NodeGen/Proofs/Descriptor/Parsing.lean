/-
The parser and its grammar.

`parseTree_sound` follows the recursion of the parser: what it `Takes` from the
front of its input is the sentence of a derivation whose wrappers are lists, and
the descriptor is the tree of that derivation.  `parseTree_complete` follows the
derivation: whatever comes after the sentence, as long as it does not make it
longer, is left over.  On a whole text both together give `parse_eq_ok_iff`, and
there is one derivation at most.
-/
import Mathlib.Logic.Function.Defs
import NodeGen.Descriptor.Parser
import NodeGen.Proofs.Descriptor.Derivation
import NodeGen.Proofs.Result

namespace NodeGen
namespace Descriptor

def symbolsOf (pieces : List Piece) : List Symbol := pieces.map Piece.symbol

theorem symbolsOf_append (a b : List Piece) : symbolsOf (a ++ b) = symbolsOf a ++ symbolsOf b :=
  List.map_append

theorem symbolsOf_eq_cons {pieces : List Piece} {s : Symbol} {ss : List Symbol}
    (h : symbolsOf pieces = s :: ss) :
    ∃ offset rest, pieces = ⟨s, offset⟩ :: rest ∧ symbolsOf rest = ss := by
  obtain ⟨p, rest, rfl, rfl, hrest⟩ := List.map_eq_cons_iff.mp h
  exact ⟨p.offset, rest, rfl, hrest⟩

theorem symbolsOf_eq_singleton {pieces : List Piece} {s : Symbol} (h : symbolsOf pieces = [s]) :
    ∃ offset, pieces = [⟨s, offset⟩] := by
  obtain ⟨offset, rest, rfl, hrest⟩ := symbolsOf_eq_cons h
  obtain rfl : rest = [] := List.map_eq_nil_iff.mp hrest
  exact ⟨offset, rfl⟩

theorem symbolsOf_eq_qualified {pieces : List Piece} {q n : String}
    (h : symbolsOf pieces = headSymbols (some q) n) :
    ∃ o o' o'', pieces = [⟨.name q, o⟩, ⟨.dot, o'⟩, ⟨.name n, o''⟩] := by
  obtain ⟨o, rest, rfl, hrest⟩ := symbolsOf_eq_cons h
  obtain ⟨o', last, rfl, hlast⟩ := symbolsOf_eq_cons hrest
  obtain ⟨o'', rfl⟩ := symbolsOf_eq_singleton hlast
  exact ⟨o, o', o'', rfl⟩

/-! ## Soundness -/

theorem closeList_ok {size : Nat} {element d : Descriptor} {pieces rest : List Piece}
    (h : closeList size element pieces = .ok (d, rest)) :
    d = list element ∧ ∃ offset, pieces = ⟨.closing, offset⟩ :: rest := by
  unfold closeList at h
  split at h
  · cases h
    exact ⟨rfl, _, rfl⟩
  · cases h

/-- What the parser does after an opening bracket. -/
def parseBrackets (size : Nat) (pieces : List Piece) :
    Except DescriptorError (Descriptor × List Piece) := do
  let (element, rest) ← parseTree size pieces
  closeList size element rest

/-- The parser takes the sentence of a derivation from the front of its input, and
takes all of it. -/
structure Takes (pieces : List Piece) (d : Descriptor) (front rest : List Piece)
    (t : Derivation) : Prop where
  split : pieces = front ++ rest
  symbols : symbolsOf front = t.symbols
  wrapsLists : t.WrapsLists
  descriptor : t.descriptor = d
  ends : ∀ p ∈ rest.head?, t.Ends p.symbol

/-- Brackets around a sentence make a sentence with any head that is a list. -/
theorem wrapped_sound {size : Nat} {d : Descriptor} {head pieces rest : List Piece} {o : Nat}
    {q : Option String} (hhead : symbolsOf head = headSymbols q listName)
    (ih : ∀ {element : Descriptor} {more : List Piece},
      parseTree size pieces = .ok (element, more) → ∃ front t, Takes pieces element front more t)
    (h : parseBrackets size pieces = .ok (d, rest)) :
    ∃ front t, Takes (head ++ ⟨.opening, o⟩ :: pieces) d front rest t := by
  obtain ⟨⟨element, more⟩, hinner, hclose⟩ := bind_ok h
  obtain ⟨rfl, o', rfl⟩ := closeList_ok hclose
  obtain ⟨front, t, htakes⟩ := ih hinner
  refine ⟨head ++ ⟨.opening, o⟩ :: (front ++ [⟨.closing, o'⟩]), .wrapped q listName t, ?_, ?_,
    ⟨rfl, htakes.wrapsLists⟩, congrArg list htakes.descriptor, fun _ _ => trivial⟩
  · rw [htakes.split]
    simp
  · have hfront : front.map Piece.symbol = t.symbols := htakes.symbols
    have hhead : head.map Piece.symbol = headSymbols q listName := hhead
    simp [symbolsOf, Derivation.symbols, hfront, hhead]

theorem parseTree_sound {size : Nat} {pieces rest : List Piece} {d : Descriptor}
    (h : parseTree size pieces = .ok (d, rest)) : ∃ front t, Takes pieces d front rest t := by
  induction pieces using parseTree.induct generalizing d rest with
  | case1 q o o' o'' o3 more ih =>
    rw [parseTree, if_pos rfl] at h
    have hhead : symbolsOf [⟨.name q, o⟩, ⟨.dot, o'⟩, ⟨.name listName, o''⟩] =
        headSymbols (some q) listName := rfl
    exact wrapped_sound hhead ih h
  | case2 _ _ _ n _ _ _ hn =>
    rw [parseTree, if_neg hn] at h
    cases h
  | case3 q o o' n o'' more hopening =>
    rw [parseTree.eq_2 _ _ _ _ _ _ _ hopening] at h
    cases h
    refine ⟨[⟨.name q, o⟩, ⟨.dot, o'⟩, ⟨.name n, o''⟩], .bare (some q) n, rfl, rfl, trivial, rfl, ?_⟩
    intro p hp
    obtain ⟨last, rfl⟩ := List.head?_eq_some_iff.mp hp
    exact ⟨fun hq => (Option.some_ne_none q hq).elim,
      fun hs => hopening p.offset last (by rw [← hs])⟩
  | case4 _ _ _ _ hqualified hname =>
    rw [parseTree.eq_3 _ _ _ _ _ hqualified hname] at h
    cases h
  | case5 o o' more ih =>
    rw [parseTree, if_pos rfl] at h
    have hhead : symbolsOf [⟨.name listName, o⟩] = headSymbols none listName := rfl
    exact wrapped_sound hhead ih h
  | case6 n _ _ _ hn =>
    rw [parseTree, if_neg hn] at h
    cases h
  | case7 n o more hqualified hname hdot hopening =>
    rw [parseTree.eq_5 _ _ _ _ hqualified hname hdot hopening] at h
    cases h
    refine ⟨[⟨.name n, o⟩], .bare none n, rfl, rfl, trivial, rfl, ?_⟩
    intro p hp
    obtain ⟨last, rfl⟩ := List.head?_eq_some_iff.mp hp
    exact ⟨fun _ hs => hdot p.offset last (by rw [← hs]),
      fun hs => hopening p.offset last (by rw [← hs])⟩
  | case8 _ h1 h2 h3 h4 h5 =>
    rw [parseTree.eq_6 _ _ h1 h2 h3 h4 h5] at h
    cases h

/-! ## Completeness -/

/-- The pieces of a head, and what the parser does when nothing makes it longer. -/
theorem parseTree_bare {size : Nat} {q : Option String} {n : String} {front rest : List Piece}
    (hfront : symbolsOf front = headSymbols q n) (hrest : Follows (symbolsOf rest)) :
    parseTree size (front ++ rest) = .ok (named q n, rest) := by
  have hopening : ∀ offset more, rest = ⟨.opening, offset⟩ :: more → False := by
    rintro offset more rfl
    exact not_follows_opening hrest
  have hdot : ∀ offset more, rest = ⟨.dot, offset⟩ :: more → False := by
    rintro offset more rfl
    exact not_follows_dot hrest
  cases q with
  | none =>
    obtain ⟨o, rfl⟩ := symbolsOf_eq_singleton hfront
    exact parseTree.eq_5 _ _ _ _ (fun o _ _ _ _ => hdot o _) (fun o _ _ _ => hdot o _) hdot
      hopening
  | some q =>
    obtain ⟨o, o', o'', rfl⟩ := symbolsOf_eq_qualified hfront
    exact parseTree.eq_2 _ _ _ _ _ _ _ hopening

theorem parseTree_wrapped {size : Nat} {q : Option String} {front : List Piece} (offset : Nat)
    (rest : List Piece) (hfront : symbolsOf front = headSymbols q listName) :
    parseTree size (front ++ ⟨.opening, offset⟩ :: rest) = parseBrackets size rest := by
  cases q with
  | none =>
    obtain ⟨o, rfl⟩ := symbolsOf_eq_singleton hfront
    exact (parseTree.eq_4 _ _ _ _ _).trans (if_pos rfl)
  | some q =>
    obtain ⟨o, o', o'', rfl⟩ := symbolsOf_eq_qualified hfront
    exact (parseTree.eq_1 _ _ _ _ _ _ _ _).trans (if_pos rfl)

theorem parseTree_complete {size : Nat} {t : Derivation} {front rest : List Piece}
    (hwraps : t.WrapsLists) (hfront : symbolsOf front = t.symbols)
    (hrest : Follows (symbolsOf rest)) :
    parseTree size (front ++ rest) = .ok (t.descriptor, rest) := by
  induction t generalizing front rest with
  | bare q n => exact parseTree_bare hfront hrest
  | wrapped q n t ih =>
    obtain ⟨rfl, hinner⟩ := hwraps
    obtain ⟨head, tail, rfl, hhead, htail⟩ := List.map_eq_append_iff.mp hfront
    obtain ⟨o, bracketed, rfl, hbracketed⟩ := symbolsOf_eq_cons htail
    obtain ⟨inner, last, rfl, hinner', hlast⟩ := List.map_eq_append_iff.mp hbracketed
    obtain ⟨o', rfl⟩ := symbolsOf_eq_singleton hlast
    have hclose : Follows (symbolsOf (⟨.closing, o'⟩ :: rest)) := follows_closing _
    have hparse : parseTree size (inner ++ ⟨.closing, o'⟩ :: rest) =
        .ok (t.descriptor, ⟨.closing, o'⟩ :: rest) := ih hinner hinner' hclose
    simp only [List.append_assoc, List.cons_append, List.nil_append]
    rw [parseTree_wrapped _ _ hhead, parseBrackets, hparse]
    rfl

/-! ## Whole texts -/

theorem ofPieces_eq_ok_iff {size : Nat} {pieces : List Piece} {d : Descriptor} :
    ofPieces size pieces = .ok d ↔
      ∃ t : Derivation, t.symbols = symbolsOf pieces ∧ t.WrapsLists ∧ t.descriptor = d := by
  constructor
  · intro h
    unfold ofPieces at h
    split at h
    · cases h
    obtain ⟨⟨d', rest⟩, hparse, hrest⟩ := bind_ok h
    obtain ⟨front, t, htakes⟩ := parseTree_sound hparse
    cases rest with
    | nil =>
      cases hrest
      have hpieces : pieces = front := htakes.split.trans (List.append_nil front)
      exact ⟨t, hpieces ▸ htakes.symbols.symm, htakes.wrapsLists, htakes.descriptor⟩
    | cons p rest => cases hrest
  · rintro ⟨t, hsymbols, hwraps, rfl⟩
    have hne : pieces ≠ [] := by
      rintro rfl
      exact t.symbols_ne_nil hsymbols
    have hparse : parseTree size (pieces ++ []) = .ok (t.descriptor, []) :=
      parseTree_complete hwraps hsymbols.symm follows_nil
    rw [List.append_nil] at hparse
    rw [ofPieces, if_neg hne, hparse]
    rfl

theorem parse_eq_ok_iff {src : String} {d : Descriptor} :
    parse src = .ok d ↔ ∃ pieces, Piece.scan src = .ok pieces ∧
      ∃ t : Derivation, t.symbols = symbolsOf pieces ∧ t.WrapsLists ∧ t.descriptor = d := by
  constructor
  · intro h
    obtain ⟨pieces, hscan, hpieces⟩ := bind_ok h
    exact ⟨pieces, hscan, ofPieces_eq_ok_iff.mp hpieces⟩
  · rintro ⟨pieces, hscan, ht⟩
    rw [parse, hscan]
    exact ofPieces_eq_ok_iff.mpr ht

/-- The parser accepts the sentences of its grammar and no others, and gives the
tree of the derivation, of which there is one at most. -/
theorem parse_iff_derivation (src : String) (d : Descriptor) :
    (parse src = .ok d ↔ ∃ pieces, Piece.scan src = .ok pieces ∧
      ∃ t : Derivation, t.symbols = symbolsOf pieces ∧ t.WrapsLists ∧ t.descriptor = d) ∧
    Function.Injective Derivation.symbols :=
  ⟨parse_eq_ok_iff, fun _ _ => Derivation.symbols_injective⟩

end Descriptor
end NodeGen
