/-
Lists of a text.

`List<` before a text and `>` after it cannot repair it or take it apart.  The scanner
finds the pieces of the text between its own three (`Piece.scan_wrapped`), and a
sentence that starts by opening a list is over with the bracket that closes this list,
so the text in between is a sentence exactly if the whole is one.
-/
import NodeGen.GoType
import NodeGen.Proofs.Descriptor.Spacing
import NodeGen.Proofs.Descriptor.Viability

namespace NodeGen

/-! ## Pieces -/

namespace Piece

theorem readBefore_append (inName : Bool) (offset : Nat) (c : Char) (r : List Char × List Piece)
    (more : List Piece) :
    readBefore inName offset c (r.1, r.2 ++ more) =
      ((readBefore inName offset c r).1, (readBefore inName offset c r).2 ++ more) := by
  unfold readBefore
  by_cases hword : isWordChar c = true
  · rw [if_pos hword, if_pos hword]
    cases inName <;> rfl
  · rw [if_neg hword, if_neg hword, List.append_assoc]

/-- Punctuation at the end of a text is one piece more, whatever the text is. -/
theorem scanFrom_concat {c : Char} {s : Symbol} (hc : punctuation? c = some s) (inName : Bool)
    (offset : Nat) (cs : List Char) :
    scanFrom inName offset (cs ++ [c]) =
      (scanFrom inName offset cs).map fun r => (r.1, r.2 ++ [⟨s, offset + String.utf8Len cs⟩]) := by
  induction cs generalizing inName offset with
  | nil =>
    show scanFrom inName offset [c] = .ok ([], [⟨s, offset + 0⟩])
    rw [scanFrom_placed (not_misplaced_punctuation hc)]
    show Except.ok (readBefore inName offset c ([], [])) = _
    rw [readBefore, isWordChar_of_punctuation? hc, hc]
    rfl
  | cons d rest ih =>
    rw [List.cons_append]
    by_cases hd : Misplaced inName d
    · rw [scanFrom_misplaced hd, scanFrom_misplaced hd]
      rfl
    · have hend : offset + d.utf8Size + String.utf8Len rest = offset + String.utf8Len (d :: rest) := by
        rw [String.utf8Len_cons]
        omega
      rw [scanFrom_placed hd, scanFrom_placed hd, ih, hend]
      cases scanFrom (isWordChar d) (offset + d.utf8Size) rest with
      | error e => rfl
      | ok r => exact congrArg Except.ok (readBefore_append inName offset d r _)

/-- The text after an opened list is read as it is on its own, five bytes further on. -/
theorem scanFrom_opened (cs : List Char) :
    scanFrom false 0 ("List<".toList ++ cs) =
      (moveScan (· + 5) (scanFrom false 0 cs)).map
        fun r => ([], ⟨.name Descriptor.listName, 0⟩ :: ⟨.opening, 4⟩ :: r.2) := by
  have hmove : scanFrom false 5 cs = moveScan (· + 5) (scanFrom false 0 cs) :=
    @scanFrom_move (· + 5) 0 5 (fun _ _ => rfl) false cs
  have hsteps : scanFrom false 0 ('L' :: 'i' :: 's' :: 't' :: '<' :: cs) =
      (((((scanFrom false 5 cs).map (readBefore true 4 '<')).map (readBefore true 3 't')).map
        (readBefore true 2 's')).map (readBefore true 1 'i')).map (readBefore false 0 'L') := by
    rw [scanFrom_placed (by decide), scanFrom_placed (by decide), scanFrom_placed (by decide),
      scanFrom_placed (by decide), scanFrom_placed (by decide)]
    rfl
  show scanFrom false 0 ('L' :: 'i' :: 's' :: 't' :: '<' :: cs) = _
  rw [hsteps, ← hmove]
  cases scanFrom false 5 cs with
  | error e => rfl
  | ok r => rfl

/-- The pieces of a list, given those of the text in its brackets, which has `size`
bytes. -/
def wrapped (size : Nat) (pieces : List Piece) : List Piece :=
  ⟨.name Descriptor.listName, 0⟩ :: ⟨.opening, 4⟩ ::
    (pieces.map (move (· + 5)) ++ [⟨.closing, 5 + size⟩])

theorem scan_wrapped (s : String) :
    scan ("List<" ++ s ++ ">") =
      ((scan s).map (wrapped (Text.byteSize s))).mapError (DescriptorError.move (· + 5)) := by
  have hsize : String.utf8Len ("List<".toList ++ s.toList) = 5 + Text.byteSize s := by
    rw [String.utf8Len_append, String.utf8Len_toList s]
    rfl
  have hclosing : punctuation? '>' = some .closing := by decide
  have hscan := scanFrom_concat hclosing false 0 ("List<".toList ++ s.toList)
  rw [scanFrom_opened, hsize, Nat.zero_add] at hscan
  rw [scan, String.toList_append, String.toList_append]
  show (scanFrom false 0 ("List<".toList ++ s.toList ++ ['>'])).map (·.2) = _
  rw [hscan, scan]
  cases scanFrom false 0 s.toList with
  | error e => rfl
  | ok r => rfl

theorem scan_wrapped_ok_iff {s : String} {more : List Piece} :
    scan ("List<" ++ s ++ ">") = .ok more ↔
      ∃ pieces, scan s = .ok pieces ∧ more = wrapped (Text.byteSize s) pieces := by
  rw [scan_wrapped]
  cases scan s with
  | error e =>
    constructor
    · intro h
      cases h
    · rintro ⟨pieces, h, -⟩
      cases h
  | ok pieces =>
    constructor
    · intro h
      exact ⟨pieces, rfl, (Except.ok.inj h).symm⟩
    · rintro ⟨pieces', h, rfl⟩
      cases h
      rfl

end Piece

/-! ## Descriptors -/

namespace Descriptor

theorem symbolsOf_wrapped (size : Nat) (pieces : List Piece) :
    symbolsOf (Piece.wrapped size pieces) =
      headSymbols none listName ++ .opening :: (symbolsOf pieces ++ [.closing]) := by
  have hmoved : symbolsOf (pieces.map (Piece.move (· + 5))) = symbolsOf pieces := by
    rw [symbolsOf, List.map_map]
    rfl
  show .name listName :: .opening :: symbolsOf (pieces.map (Piece.move (· + 5)) ++ _) = _
  rw [symbolsOf_append, hmoved]
  rfl

/-- The first bracket opens the list that the last one closes, so what is in between is
a sentence of its own. -/
theorem parse_wrapped_iff {s : String} {d : Descriptor} :
    parse ("List<" ++ s ++ ">") = .ok d ↔ ∃ e, parse s = .ok e ∧ d = list e := by
  constructor
  · intro h
    obtain ⟨more, hmore, t, hsymbols, hwraps, rfl⟩ := parse_eq_ok_iff.mp h
    obtain ⟨pieces, hscan, rfl⟩ := Piece.scan_wrapped_ok_iff.mp hmore
    rw [symbolsOf_wrapped] at hsymbols
    have hopens : headSymbols none listName ++ .opening :: (symbolsOf pieces ++ [.closing]) =
        t.symbols ++ closings 0 := by
      rw [← hsymbols]
      exact (List.append_nil _).symm
    obtain ⟨u, rfl, hinner⟩ := Derivation.eq_wrapped_of_opening hopens
    have hu : u.symbols = symbolsOf pieces := (List.append_cancel_right hinner).symm
    exact ⟨u.descriptor, parse_eq_ok_iff.mpr ⟨pieces, hscan, u, hu, hwraps.2, rfl⟩, rfl⟩
  · rintro ⟨e, he, rfl⟩
    obtain ⟨pieces, hscan, t, hsymbols, hwraps, rfl⟩ := parse_eq_ok_iff.mp he
    refine parse_eq_ok_iff.mpr ⟨_, Piece.scan_wrapped_ok_iff.mpr ⟨pieces, hscan, rfl⟩,
      .wrapped none listName t, ?_, ⟨rfl, hwraps⟩, rfl⟩
    rw [symbolsOf_wrapped, ← hsymbols]
    rfl

end Descriptor

/-! ## Types -/

namespace FieldType

theorem elementOwnership_eq_value_iff {t : GoType} :
    t.elementOwnership = .value ↔ ∃ name, t = .base name := by
  cases t with
  | base name => exact iff_of_true rfl ⟨name, rfl⟩
  | dynamic | named | list =>
    constructor
    · intro h
      cases h
    · rintro ⟨name, h⟩
      cases h

theorem ofDescriptor_list (d : Descriptor) :
    ofDescriptor (.list d) =
      ⟨.list (ofDescriptor d).type (ofDescriptor d).type.elementOwnership, .owned⟩ := rfl

/-- A text stands for a type in the brackets of a list exactly if it does on its own,
and the elements of the list have that type.  They are held by value if they are the
interface of a family, and through a pointer if not. -/
theorem parse_list (s : String) :
    ((∃ t, parse ("List<" ++ s ++ ">") = .ok t) ↔ ∃ t, parse s = .ok t) ∧
    ∀ t, parse s = .ok t → ∃ held, parse ("List<" ++ s ++ ">") = .ok ⟨.list t.type held, .owned⟩ ∧
      (held = .value ↔ ∃ name, t.type = .base name) := by
  have hwrapped (t : FieldType) (ht : parse s = .ok t) :
      parse ("List<" ++ s ++ ">") = .ok ⟨.list t.type t.type.elementOwnership, .owned⟩ := by
    obtain ⟨d, hd, rfl⟩ := map_ok ht
    rw [parse, Descriptor.parse_wrapped_iff.mpr ⟨d, hd, rfl⟩, ← ofDescriptor_list]
    rfl
  refine ⟨⟨?_, ?_⟩, ?_⟩
  · rintro ⟨t, ht⟩
    obtain ⟨d, hd, -⟩ := map_ok ht
    obtain ⟨e, he, -⟩ := Descriptor.parse_wrapped_iff.mp hd
    exact ⟨ofDescriptor e, congrArg (Except.map ofDescriptor) he⟩
  · rintro ⟨t, ht⟩
    exact ⟨_, hwrapped t ht⟩
  · intro t ht
    exact ⟨_, hwrapped t ht, elementOwnership_eq_value_iff⟩

/-- Brackets of its own do not help a text in the brackets of a list. -/
theorem parse_list_brackets :
    parse "ast.EXPR" = .ok ⟨.base "Expr", .value⟩ ∧
      parse ("List<" ++ "ast.EXPR" ++ ">") = .ok ⟨.list (.base "Expr") .value, .owned⟩ ∧
      ∀ t, parse ("List<" ++ "Expr>.List<Expr" ++ ">") ≠ .ok t := by
  have hexpr : parse "ast.EXPR" = .ok ⟨.base "Expr", .value⟩ := by decide
  have hopen : parse "Expr>.List<Expr" = .error (.trailing 4) := by decide
  obtain ⟨held, hlist, hheld⟩ := (parse_list "ast.EXPR").2 _ hexpr
  obtain rfl : held = .value := hheld.mpr ⟨"Expr", rfl⟩
  refine ⟨hexpr, hlist, fun t ht => ?_⟩
  obtain ⟨u, hu⟩ := (parse_list "Expr>.List<Expr").1.mp ⟨t, ht⟩
  rw [hopen] at hu
  cases hu

end FieldType
end NodeGen
