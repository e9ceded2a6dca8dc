/-
Spacing.

Blanks may stand between any two characters that are not both characters of a name.
The scanner then finds the same pieces, and those after the blanks as many bytes
further on.  The parser does nothing with offsets but report them.
-/
import NodeGen.Proofs.Descriptor.Cutting

namespace NodeGen

/-! ## Moved offsets -/

def DescriptorError.move (f : Nat → Nat) : DescriptorError → DescriptorError
  | empty => empty
  | unexpectedChar found offset => unexpectedChar found (f offset)
  | expected what offset => expected what (f offset)
  | trailing offset => trailing (f offset)
  | unknownWrapper name => unknownWrapper name

/-- Offsets from `start` on are `width` bytes further on. -/
def shiftFrom (start width offset : Nat) : Nat :=
  if offset < start then offset else offset + width

theorem shiftFrom_of_lt {start width offset : Nat} (h : offset < start) :
    shiftFrom start width offset = offset :=
  if_pos h

theorem shiftFrom_of_le {start width offset : Nat} (h : start ≤ offset) :
    shiftFrom start width offset = offset + width :=
  if_neg (Nat.not_lt.mpr h)

variable (f : Nat → Nat)

namespace Piece

def move (p : Piece) : Piece := ⟨p.symbol, f p.offset⟩

/-! ## Moved scans -/

def moveScan : Except DescriptorError (List Char × List Piece) →
    Except DescriptorError (List Char × List Piece)
  | .ok r => .ok (r.1, r.2.map (move f))
  | .error e => .error (e.move f)

theorem moveScan_map_readBefore (inName : Bool) (offset : Nat) (c : Char)
    (x : Except DescriptorError (List Char × List Piece)) :
    moveScan f (x.map (readBefore inName offset c)) =
      (moveScan f x).map (readBefore inName (f offset) c) := by
  cases x with
  | error e => rfl
  | ok r =>
    refine congrArg Except.ok ?_
    unfold readBefore
    cases isWordChar c with
    | true => cases inName <;> rfl
    | false => cases punctuation? c <;> rfl

variable {f}

/-- The same characters further on give the same pieces further on. -/
theorem scanFrom_move {offset width : Nat} (hf : ∀ o, offset ≤ o → f o = o + width)
    (inName : Bool) (cs : List Char) :
    scanFrom inName (offset + width) cs = moveScan f (scanFrom inName offset cs) := by
  induction cs generalizing offset inName with
  | nil => rfl
  | cons c rest ih =>
    have hoffset : f offset = offset + width := hf offset (Nat.le_refl offset)
    by_cases hc : Misplaced inName c
    · rw [scanFrom_misplaced hc, scanFrom_misplaced hc, ← hoffset]
      rfl
    · have hnext : ∀ o, offset + c.utf8Size ≤ o → f o = o + width :=
        fun o ho => hf o (Nat.le_trans (Nat.le_add_right offset _) ho)
      rw [scanFrom_placed hc, scanFrom_placed hc, moveScan_map_readBefore, ← ih hnext, hoffset,
        Nat.add_right_comm]

/-- A character that does not belong to a name is read alike within a name and outside. -/
theorem scanFrom_outside {cs : List Char} (h : startsInName cs = false) (inName : Bool)
    (offset : Nat) : scanFrom inName offset cs = scanFrom false offset cs := by
  cases cs with
  | nil => rfl
  | cons c rest =>
    rw [startsInName_cons] at h
    simp only [scanFrom, h, Bool.and_false]

theorem isWordChar_of_isBlank {c : Char} (h : Text.isBlank c = true) : isWordChar c = false := by
  rw [Bool.eq_false_iff]
  intro hword
  rw [isBlank_of_isWordChar hword] at h
  cases h

theorem punctuation?_of_isBlank {c : Char} (h : Text.isBlank c = true) : punctuation? c = none := by
  rw [Option.eq_none_iff_forall_ne_some]
  intro s hs
  rw [isBlank_of_punctuation? hs] at h
  cases h

/-- A blank adds nothing to what is read after it. -/
theorem map_readBefore_blank {c : Char} (hc : Text.isBlank c = true) (offset next : Nat)
    (cs : List Char) :
    (scanFrom false next cs).map (readBefore false offset c) = scanFrom false next cs := by
  cases hscan : scanFrom false next cs with
  | error e => rfl
  | ok r =>
    obtain ⟨word, pieces⟩ := r
    obtain rfl := scanFrom_false_word hscan
    refine congrArg Except.ok ?_
    simp [readBefore, isWordChar_of_isBlank hc, punctuation?_of_isBlank hc]

theorem scanFrom_blanks {w : List Char} (hw : ∀ c ∈ w, Text.isBlank c = true) (offset : Nat)
    (cs : List Char) :
    scanFrom false offset (w ++ cs) = scanFrom false (offset + String.utf8Len w) cs := by
  induction w generalizing offset with
  | nil => rfl
  | cons c w ih =>
    obtain ⟨hc, hw⟩ := List.forall_mem_cons.mp hw
    have hsize : offset + String.utf8Len (c :: w) = offset + c.utf8Size + String.utf8Len w := by
      rw [String.utf8Len_cons]
      omega
    rw [List.cons_append, scanFrom_placed (not_misplaced_blank hc), isWordChar_of_isBlank hc,
      ih hw, map_readBefore_blank hc, hsize]

theorem startsInName_blanks {w : List Char} (hw : ∀ c ∈ w, Text.isBlank c = true) {v : List Char}
    (hv : startsInName v = false) : startsInName (w ++ v) = false := by
  cases w with
  | nil => exact hv
  | cons c w => exact isWordChar_of_isBlank (hw c List.mem_cons_self)

/-- Induction on the text before the blanks.  Its offsets do not move, and where it ends
the scanner is outside a name or comes upon a character that ends the name. -/
theorem scanFrom_insert {before u v w : List Char} (hw : ∀ c ∈ w, Text.isBlank c = true)
    (hseam : endsInName (before ++ u) = false ∨ startsInName v = false) :
    scanFrom (endsInName before) (String.utf8Len before) (u ++ w ++ v) =
      moveScan (shiftFrom (String.utf8Len (before ++ u)) (String.utf8Len w))
        (scanFrom (endsInName before) (String.utf8Len before) (u ++ v)) := by
  induction u generalizing before with
  | nil =>
    rw [List.append_nil] at hseam ⊢
    have houtside : ∀ cs, (endsInName before = false ∨ startsInName cs = false) →
        scanFrom (endsInName before) (String.utf8Len before) cs =
          scanFrom false (String.utf8Len before) cs := by
      rintro cs (hbefore | hcs)
      · rw [hbefore]
      · exact scanFrom_outside hcs _ _
    have hmove : ∀ o, String.utf8Len before ≤ o →
        shiftFrom (String.utf8Len before) (String.utf8Len w) o = o + String.utf8Len w :=
      fun _ ho => shiftFrom_of_le ho
    show scanFrom _ _ (w ++ v) = moveScan _ (scanFrom _ _ v)
    rw [houtside v hseam, houtside (w ++ v) (hseam.imp_right (startsInName_blanks hw)),
      scanFrom_blanks hw, scanFrom_move hmove]
  | cons c u ih =>
    have hlt : String.utf8Len before < String.utf8Len (before ++ c :: u) := by
      have hsize := c.utf8Size_pos
      rw [String.utf8Len_append, String.utf8Len_cons]
      omega
    rw [List.cons_append, List.cons_append, List.cons_append]
    by_cases hc : Misplaced (endsInName before) c
    · rw [scanFrom_misplaced hc, scanFrom_misplaced hc]
      show _ = Except.error (DescriptorError.unexpectedChar c (shiftFrom _ _ _))
      rw [shiftFrom_of_lt hlt]
    · rw [List.append_cons] at hseam hlt ⊢
      rw [scanFrom_placed hc, scanFrom_placed hc, moveScan_map_readBefore, shiftFrom_of_lt hlt,
        utf8Len_concat, ← endsInName_append before c, ih hseam]

end Piece

namespace Descriptor

/-! ## Moved parses -/

def moveTree : Except DescriptorError (Descriptor × List Piece) →
    Except DescriptorError (Descriptor × List Piece)
  | .ok r => .ok (r.1, r.2.map (Piece.move f))
  | .error e => .error (e.move f)

theorem closeList_move (size : Nat) (element : Descriptor) (pieces : List Piece) :
    closeList (f size) element (pieces.map (Piece.move f)) =
      moveTree f (closeList size element pieces) := by
  cases pieces with
  | nil => rfl
  | cons p rest =>
    obtain ⟨s, offset⟩ := p
    cases s <;> rfl

/-- Completes a list in brackets, for one head and the other. -/
theorem parseBrackets_move {size : Nat} {pieces : List Piece}
    (h : parseTree (f size) (pieces.map (Piece.move f)) = moveTree f (parseTree size pieces)) :
    parseBrackets (f size) (pieces.map (Piece.move f)) = moveTree f (parseBrackets size pieces) := by
  rw [parseBrackets, parseBrackets, h]
  cases parseTree size pieces with
  | error e => rfl
  | ok r => exact closeList_move f size r.1 r.2

theorem parseTree_move (size : Nat) (pieces : List Piece) :
    parseTree (f size) (pieces.map (Piece.move f)) = moveTree f (parseTree size pieces) := by
  have hnot : ∀ {s : Symbol} {rest : List Piece},
      (∀ o more, rest = ⟨s, o⟩ :: more → False) →
        ∀ o more, rest.map (Piece.move f) = ⟨s, o⟩ :: more → False := by
    intro s rest h o more heq
    obtain ⟨p, rest', rfl, hp, -⟩ := List.map_eq_cons_iff.mp heq
    cases hp
    exact h p.offset rest' rfl
  induction pieces using parseTree.induct with
  | case1 q o o' o'' o3 more ih =>
    simp only [List.map_cons, Piece.move]
    rw [parseTree, parseTree, if_pos rfl, if_pos rfl]
    exact parseBrackets_move f ih
  | case2 _ _ _ n _ _ _ hn =>
    simp only [List.map_cons, Piece.move]
    rw [parseTree, parseTree, if_neg hn, if_neg hn]
    rfl
  | case3 q o o' n o'' more hopening =>
    simp only [List.map_cons, Piece.move]
    rw [parseTree.eq_2 _ _ _ _ _ _ _ hopening, parseTree.eq_2 _ _ _ _ _ _ _ (hnot hopening)]
    rfl
  | case4 _ _ _ more _ hname =>
    cases more with
    | nil => rfl
    | cons p more =>
      obtain ⟨s, offset⟩ := p
      cases s with
      | name n => exact (hname n offset more rfl).elim
      | dot | opening | closing => rfl
  | case5 o o' more ih =>
    simp only [List.map_cons, Piece.move]
    rw [parseTree, parseTree, if_pos rfl, if_pos rfl]
    exact parseBrackets_move f ih
  | case6 n _ _ _ hn =>
    simp only [List.map_cons, Piece.move]
    rw [parseTree, parseTree, if_neg hn, if_neg hn]
    rfl
  | case7 n o more _ _ hdot hopening =>
    cases more with
    | nil => rfl
    | cons p more =>
      obtain ⟨s, offset⟩ := p
      cases s with
      | dot => exact (hdot offset more rfl).elim
      | opening => exact (hopening offset more rfl).elim
      | name | closing => rfl
  | case8 pieces _ _ _ _ hname =>
    cases pieces with
    | nil => rfl
    | cons p more =>
      obtain ⟨s, offset⟩ := p
      cases s with
      | name n => exact (hname n offset more rfl).elim
      | dot | opening | closing => rfl

theorem ofPieces_move (size : Nat) (pieces : List Piece) :
    ofPieces (f size) (pieces.map (Piece.move f)) =
      (ofPieces size pieces).mapError (DescriptorError.move f) := by
  by_cases hnil : pieces = []
  · subst hnil
    rfl
  · have hmap : pieces.map (Piece.move f) ≠ [] := fun h => hnil (List.map_eq_nil_iff.mp h)
    rw [ofPieces, ofPieces, if_neg hnil, if_neg hmap, parseTree_move]
    cases parseTree size pieces with
    | error e => rfl
    | ok r =>
      obtain ⟨d, rest⟩ := r
      cases rest <;> rfl

end Descriptor

/-! ## Blanks between pieces -/

variable {u v w : String}

theorem Piece.scan_insert (hw : ∀ c ∈ w.toList, Text.isBlank c = true)
    (hseam : endsInName u.toList = false ∨ startsInName v.toList = false) :
    scan (u ++ w ++ v) =
      ((scan (u ++ v)).map (List.map (move (shiftFrom (Text.byteSize u) (Text.byteSize w))))).mapError
        (DescriptorError.move (shiftFrom (Text.byteSize u) (Text.byteSize w))) := by
  have hscan := @scanFrom_insert [] u.toList v.toList w.toList hw hseam
  have hu : String.utf8Len ([] ++ u.toList) = Text.byteSize u := String.utf8Len_toList u
  have hw : String.utf8Len w.toList = Text.byteSize w := String.utf8Len_toList w
  rw [hu, hw] at hscan
  rw [scan, scan, String.toList_append, String.toList_append, String.toList_append]
  change scanFrom false 0 _ = moveScan _ (scanFrom false 0 _) at hscan
  rw [hscan]
  cases scanFrom false 0 (u.toList ++ v.toList) <;> rfl

/-- Blanks between two characters that are not both of a name leave the descriptor as it
is, and move the offsets after them. -/
theorem Descriptor.parse_insert_blanks (hw : ∀ c ∈ w.toList, Text.isBlank c = true)
    (hseam : ¬ (endsInName u.toList = true ∧ startsInName v.toList = true)) :
    parse (u ++ w ++ v) = (parse (u ++ v)).mapError
      (DescriptorError.move (shiftFrom (Text.byteSize u) (Text.byteSize w))) := by
  have hends : endsInName u.toList = false ∨ startsInName v.toList = false := by
    rwa [not_and_or, Bool.not_eq_true, Bool.not_eq_true] at hseam
  have hsize : Text.byteSize (u ++ w ++ v) =
      shiftFrom (Text.byteSize u) (Text.byteSize w) (Text.byteSize (u ++ v)) := by
    have hle : Text.byteSize u ≤ Text.byteSize u + Text.byteSize v := Nat.le_add_right _ _
    rw [Text.byteSize_append, Text.byteSize_append, Text.byteSize_append, shiftFrom_of_le hle]
    omega
  rw [parse, parse, Piece.scan_insert hw hends, hsize]
  cases Piece.scan (u ++ v) with
  | error e => rfl
  | ok pieces => exact ofPieces_move _ _ pieces

/-- The end of the text moves along with the blanks before it. -/
theorem Descriptor.parse_insert_wideBlanks :
    (∀ c ∈ "\u3000\t".toList, Text.isBlank c = true) ∧
      ¬ (endsInName "List<".toList = true ∧ startsInName "Expr".toList = true) ∧
      parse "List<Expr" = .error (.expected .closingBracket 9) ∧
      parse ("List<" ++ "\u3000\t" ++ "Expr") = .error (.expected .closingBracket 13) := by
  have hw : ∀ c ∈ "\u3000\t".toList, Text.isBlank c = true := List.all_eq_true.mp (by decide)
  have hseam : ¬ (endsInName "List<".toList = true ∧ startsInName "Expr".toList = true) := by decide
  have hparse : parse "List<Expr" = .error (.expected .closingBracket 9) := by decide
  have hjoined : "List<" ++ "Expr" = "List<Expr" := rfl
  refine ⟨hw, hseam, hparse, ?_⟩
  rw [parse_insert_blanks hw hseam, hjoined, hparse]
  decide

end NodeGen
