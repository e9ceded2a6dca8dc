/-
Where a descriptor goes wrong.

The parser stops at the first piece that no descriptor can go on with.  A `Fault` is
such a place: the symbols before it start a descriptor, those up to and including it do
not, and the error says what is missing there.  Every error of the parser is a fault
(`parseTree_fault`), where the invariant of the recursion is the number of lists that
the symbols before it open.  The offset of the error then leads back to its piece, since
no two pieces start at one offset.
-/
import NodeGen.Proofs.Descriptor.Viability

namespace NodeGen
namespace Descriptor

/-- Nothing but a name can come after the symbols. -/
def NameNext (ss : List Symbol) : Prop := ∀ s, Viable (ss ++ [s]) → ∃ n, s = .name n

/-- The symbols start a descriptor, but the pieces after them do not go on with it,
which the error says. -/
inductive Fault (size : Nat) (ss : List Symbol) : List Piece → DescriptorError → Prop where
  | expected {what : Expectation} {rest : List Piece} (viable : Viable ss)
      (incomplete : ¬ Complete ss) (wrong : ∀ p ∈ rest.head?, ¬ Viable (ss ++ [p.symbol]))
      (what_iff : what = .identifier ↔ NameNext ss) :
      Fault size ss rest (.expected what (nextOffset size rest))
  | trailing {p : Piece} {rest : List Piece} (complete : Complete ss)
      (wrong : ¬ Viable (ss ++ [p.symbol])) : Fault size ss (p :: rest) (.trailing p.offset)
  | unknownWrapper {n : String} {o o' : Nat} {rest : List Piece} (unknown : n ≠ listName)
      (viable : Viable (ss ++ [.name n])) (wrong : ¬ Viable (ss ++ [.name n, .opening])) :
      Fault size ss (⟨.name n, o⟩ :: ⟨.opening, o'⟩ :: rest) (.unknownWrapper n)

/-! ## Faults of the parser -/

section Recursion

variable {size k : Nat} {pre ss : List Symbol} {pieces rest : List Piece} {e : DescriptorError}

theorem Fault.name (viable : Viable ss) (incomplete : ¬ Complete ss) (names : NameNext ss)
    (hrest : ∀ p ∈ rest.head?, ∀ n, p.symbol ≠ .name n) :
    Fault size ss rest (.expected .identifier (nextOffset size rest)) := by
  refine .expected viable incomplete (fun p hp hviable => ?_) (iff_of_true rfl names)
  obtain ⟨n, hn⟩ := names _ hviable
  exact hrest p hp n hn

theorem closeList_error {element : Descriptor} (h : closeList size element pieces = .error e) :
    e = .expected .closingBracket (nextOffset size pieces) ∧
      ∀ p ∈ pieces.head?, p.symbol ≠ .closing := by
  unfold closeList at h
  split at h
  · cases h
  · rename_i hclosing
    cases h
    refine ⟨rfl, fun p hp hs => ?_⟩
    obtain ⟨more, rfl⟩ := List.head?_eq_some_iff.mp hp
    exact hclosing p.offset more (by rw [← hs])

/-- After a sentence inside a list, its bracket has to come. -/
theorem Opens.fault_closing (h : Opens (k + 1) pre) {t : Derivation} (hwraps : t.WrapsLists)
    (hends : ∀ p ∈ rest.head?, t.Ends p.symbol) (hrest : ∀ p ∈ rest.head?, p.symbol ≠ .closing) :
    Fault size (pre ++ t.symbols) rest (.expected .closingBracket (nextOffset size rest)) := by
  refine .expected (h.viable hwraps (List.append_nil _).symm) (h.not_complete_open t) ?_ ?_
  · intro p hp hviable
    rw [List.append_assoc] at hviable
    exact hrest p hp (h.closing_of_viable (hends p hp) hviable).2
  · refine iff_of_false (fun hwhat => by cases hwhat) fun hnames => ?_
    have hclosing := h.viable_closing hwraps
    rw [← List.append_assoc] at hclosing
    obtain ⟨n, hn⟩ := hnames _ hclosing
    cases hn

theorem parseBrackets_fault (h : Opens k pre) {head : List Piece} {q : Option String} {o : Nat}
    (hhead : symbolsOf head = headSymbols q listName)
    (ih : ∀ {k : Nat} {pre : List Symbol} {e : DescriptorError}, Opens k pre →
      parseTree size pieces = .error e →
      ∃ front rest, pieces = front ++ rest ∧ Fault size (pre ++ symbolsOf front) rest e)
    (herror : parseBrackets size pieces = .error e) :
    ∃ front rest, head ++ ⟨.opening, o⟩ :: pieces = front ++ rest ∧
      Fault size (pre ++ symbolsOf front) rest e := by
  have hopens : Opens (k + 1) (pre ++ symbolsOf (head ++ [⟨.opening, o⟩])) := by
    rw [symbolsOf_append, hhead]
    exact h.list q
  -- The fault is among the pieces inside the brackets or right after them.
  suffices hinner : ∃ front rest, pieces = front ++ rest ∧
      Fault size (pre ++ symbolsOf (head ++ [⟨.opening, o⟩]) ++ symbolsOf front) rest e by
    obtain ⟨front, rest, rfl, hfault⟩ := hinner
    refine ⟨head ++ ⟨.opening, o⟩ :: front, rest, by simp, ?_⟩
    simpa [symbolsOf] using hfault
  cases hparse : parseTree size pieces with
  | error e' =>
    rw [parseBrackets, hparse] at herror
    cases herror
    exact ih hopens hparse
  | ok result =>
    obtain ⟨element, rest⟩ := result
    rw [parseBrackets, hparse] at herror
    obtain ⟨rfl, hclosing⟩ := closeList_error herror
    obtain ⟨front, t, htakes⟩ := parseTree_sound hparse
    refine ⟨front, rest, htakes.split, ?_⟩
    rw [htakes.symbols]
    exact hopens.fault_closing htakes.wrapsLists htakes.ends hclosing

/-- Induction along the recursion of the parser.  What it has read so far opens `k`
lists. -/
theorem parseTree_fault (h : Opens k pre) (herror : parseTree size pieces = .error e) :
    ∃ front rest, pieces = front ++ rest ∧ Fault size (pre ++ symbolsOf front) rest e := by
  induction pieces using parseTree.induct generalizing k pre e with
  | case1 q o o' o'' o3 more ih =>
    rw [parseTree, if_pos rfl] at herror
    have hhead : symbolsOf [⟨.name q, o⟩, ⟨.dot, o'⟩, ⟨.name listName, o''⟩] =
        headSymbols (some q) listName := rfl
    exact parseBrackets_fault h hhead ih herror
  | case2 q o o' n o'' o3 more hn =>
    rw [parseTree, if_neg hn] at herror
    cases herror
    refine ⟨[⟨.name q, o⟩, ⟨.dot, o'⟩], _, rfl, .unknownWrapper hn ?_ fun hviable => ?_⟩
    · rw [List.append_assoc]
      exact h.viable (t := .bare (some q) n) trivial (List.append_nil _).symm
    · rw [List.append_assoc] at hviable
      exact hn (h.list_of_viable (q := some q) hviable)
  | case3 q o o' n o'' more hopening =>
    rw [parseTree.eq_2 _ _ _ _ _ _ _ hopening] at herror
    cases herror
  | case4 q o o' rest hqualified hname =>
    rw [parseTree.eq_3 _ _ _ _ _ hqualified hname] at herror
    cases herror
    refine ⟨[⟨.name q, o⟩, ⟨.dot, o'⟩], rest, rfl, .name ?_ (h.not_complete_dot q) ?_ ?_⟩
    · exact h.viable (t := .bare (some q) listName) trivial rfl
    · intro s hviable
      rw [List.append_assoc] at hviable
      exact h.name_of_viable_dot hviable
    · intro p hp n hn
      obtain ⟨more, rfl⟩ := List.head?_eq_some_iff.mp hp
      exact hname n p.offset more (by rw [← hn])
  | case5 o o' more ih =>
    rw [parseTree, if_pos rfl] at herror
    have hhead : symbolsOf [⟨.name listName, o⟩] = headSymbols none listName := rfl
    exact parseBrackets_fault h hhead ih herror
  | case6 n o o' more hn =>
    rw [parseTree, if_neg hn] at herror
    cases herror
    refine ⟨[], _, rfl, .unknownWrapper hn ?_ fun hviable => ?_⟩
    · rw [List.append_assoc]
      exact h.viable (t := .bare none n) trivial (List.append_nil _).symm
    · rw [List.append_assoc] at hviable
      exact hn (h.list_of_viable (q := none) hviable)
  | case7 n o more hqualified hname hdot hopening =>
    rw [parseTree.eq_5 _ _ _ _ hqualified hname hdot hopening] at herror
    cases herror
  | case8 rest h1 h2 h3 h4 h5 =>
    rw [parseTree.eq_6 _ _ h1 h2 h3 h4 h5] at herror
    cases herror
    refine ⟨[], rest, rfl, .name ?_ h.not_complete ?_ ?_⟩
    · exact h.viable (t := .bare none listName) trivial rfl
    · intro s hviable
      rw [List.append_assoc] at hviable
      exact h.name_of_viable hviable
    · intro p hp n hn
      obtain ⟨more, rfl⟩ := List.head?_eq_some_iff.mp hp
      exact h5 n p.offset more (by rw [← hn])

end Recursion

theorem ofPieces_fault {size : Nat} {pieces : List Piece} {e : DescriptorError}
    (hne : pieces ≠ []) (h : ofPieces size pieces = .error e) :
    ∃ front rest, pieces = front ++ rest ∧ Fault size (symbolsOf front) rest e := by
  rw [ofPieces, if_neg hne] at h
  cases hparse : parseTree size pieces with
  | error e' =>
    rw [hparse] at h
    cases h
    exact parseTree_fault .nil hparse
  | ok result =>
    obtain ⟨d, rest⟩ := result
    rw [hparse] at h
    obtain ⟨front, t, htakes⟩ := parseTree_sound hparse
    cases rest with
    | nil => cases h
    | cons p rest =>
      cases h
      have hcomplete : Complete t.symbols := complete_iff.mpr ⟨t, htakes.wrapsLists, rfl⟩
      refine ⟨front, p :: rest, htakes.split, ?_⟩
      rw [htakes.symbols]
      refine .trailing hcomplete fun hviable => ?_
      have hdepth := (Opens.nil.closing_of_viable (htakes.ends p rfl) hviable).1
      exact hdepth rfl

/-! ## Faults by their offset -/

/-- The symbols of the first `n` pieces. -/
def firstSymbols (pieces : List Piece) (n : Nat) : List Symbol := symbolsOf (pieces.take n)

/-- The error leads to the first piece that no descriptor can go on with, or to the end
of a text that breaks off. -/
def Locates (src : String) (pieces : List Piece) : DescriptorError → Prop
  | .expected what offset =>
    (∀ i p, pieces[i]? = some p → p.offset = offset →
      Viable (firstSymbols pieces i) ∧ ¬ Complete (firstSymbols pieces i) ∧
        ¬ Viable (firstSymbols pieces (i + 1)) ∧
        (what = .identifier ↔ NameNext (firstSymbols pieces i))) ∧
    ((∀ p ∈ pieces, p.offset ≠ offset) →
      offset = Text.byteSize src ∧ Viable (symbolsOf pieces) ∧ ¬ Complete (symbolsOf pieces) ∧
        (what = .identifier ↔ NameNext (symbolsOf pieces)))
  | .trailing offset =>
    ∃ i p, pieces[i]? = some p ∧ p.offset = offset ∧ Complete (firstSymbols pieces i) ∧
      ¬ Viable (firstSymbols pieces (i + 1))
  | .unknownWrapper n =>
    ∃ i o o', pieces[i]? = some ⟨.name n, o⟩ ∧ n ≠ listName ∧
      pieces[i + 1]? = some ⟨.opening, o'⟩ ∧ Viable (firstSymbols pieces (i + 1)) ∧
      ¬ Viable (firstSymbols pieces (i + 2))
  | .empty => False
  | .unexpectedChar _ _ => False

theorem eq_of_offset {first last : Nat} {pieces : List Piece}
    (h : Piece.Placed first last pieces) {i j : Nat} {p q : Piece} (hi : pieces[i]? = some p)
    (hj : pieces[j]? = some q) (hoffset : p.offset = q.offset) : i = j := by
  obtain ⟨hilt, rfl⟩ := List.getElem?_eq_some_iff.mp hi
  obtain ⟨hjlt, rfl⟩ := List.getElem?_eq_some_iff.mp hj
  have hsorted := List.pairwise_iff_getElem.mp h.sorted
  rcases Nat.lt_trichotomy i j with hlt | heq | hgt
  · have := hsorted i j hilt hjlt hlt
    omega
  · exact heq
  · have := hsorted j i hjlt hilt hgt
    omega

theorem Fault.locates {src : String} {front rest : List Piece} {e : DescriptorError}
    (hplaced : Piece.Placed 0 (Text.byteSize src) (front ++ rest))
    (h : Fault (Text.byteSize src) (symbolsOf front) rest e) : Locates src (front ++ rest) e := by
  have hfront : firstSymbols (front ++ rest) front.length = symbolsOf front :=
    congrArg symbolsOf List.take_left
  have hnext {p : Piece} {more : List Piece} (hrest : rest = p :: more) :
      (front ++ rest)[front.length]? = some p ∧
        firstSymbols (front ++ rest) (front.length + 1) = symbolsOf front ++ [p.symbol] := by
    subst hrest
    constructor
    · simp
    · rw [firstSymbols, List.take_length_add_append, symbolsOf_append]
      rfl
  cases h with
  | @expected what _ viable incomplete wrong what_iff =>
    cases rest with
    | nil =>
      rw [List.append_nil] at hplaced ⊢
      refine ⟨fun i p hi hoffset => ?_, fun _ => ⟨rfl, viable, incomplete, what_iff⟩⟩
      exact absurd hoffset (hplaced.within p (List.mem_of_getElem? hi)).2.ne
    | cons q more =>
      obtain ⟨hq, hnext⟩ := hnext rfl
      refine ⟨fun i p hi hoffset => ?_, fun hnone => ?_⟩
      · obtain rfl := eq_of_offset hplaced hi hq hoffset
        rw [hfront, hnext]
        exact ⟨viable, incomplete, wrong q rfl, what_iff⟩
      · exact absurd rfl (hnone q (List.mem_append_right _ List.mem_cons_self))
  | trailing complete wrong =>
    obtain ⟨hp, hnext⟩ := hnext rfl
    refine ⟨front.length, _, hp, rfl, ?_, ?_⟩
    · rwa [hfront]
    · rwa [hnext]
  | @unknownWrapper n o o' more unknown viable wrong =>
    obtain ⟨hp, hnext⟩ := hnext rfl
    refine ⟨front.length, o, o', hp, unknown, by simp, ?_, ?_⟩
    · rwa [hnext]
    · rw [firstSymbols, List.take_length_add_append, symbolsOf_append]
      exact wrong

/-- A text that can be cut into pieces but not parsed is at fault at one place, which the
error locates.  What starts a descriptor there is what starts the pieces of some text
that parses. -/
theorem parse_locates {src : String} {pieces : List Piece} {e : DescriptorError}
    (hscan : Piece.scan src = .ok pieces) (hne : pieces ≠ []) (h : parse src = .error e) :
    Locates src pieces e ∧
      ∀ n, Viable (firstSymbols pieces n) ↔ ∃ src' d pieces', parse src' = .ok d ∧
        Piece.scan src' = .ok pieces' ∧ firstSymbols pieces n <+: symbolsOf pieces' := by
  constructor
  · have hpieces : ofPieces (Text.byteSize src) pieces = .error e := by
      rw [parse, hscan] at h
      exact h
    obtain ⟨front, rest, rfl, hfault⟩ := ofPieces_fault hne hpieces
    exact hfault.locates (Piece.placed_of_scan hscan)
  · intro n
    refine viable_iff_text fun m hm => Piece.isIdentifier_of_scan hscan ?_
    obtain ⟨p, hp, hsymbol⟩ := List.mem_map.mp hm
    exact List.mem_map.mpr ⟨p, List.mem_of_mem_take hp, hsymbol⟩

/-- A dot after which a name is missing. -/
theorem parse_locates_dot :
    Piece.scan "List<Stmt.>" =
      .ok [⟨.name "List", 0⟩, ⟨.opening, 4⟩, ⟨.name "Stmt", 5⟩, ⟨.dot, 9⟩, ⟨.closing, 10⟩] ∧
      parse "List<Stmt.>" = .error (.expected .identifier 10) ∧
      Locates "List<Stmt.>"
        [⟨.name "List", 0⟩, ⟨.opening, 4⟩, ⟨.name "Stmt", 5⟩, ⟨.dot, 9⟩, ⟨.closing, 10⟩]
        (.expected .identifier 10) := by
  have hscan : Piece.scan "List<Stmt.>" =
      .ok [⟨.name "List", 0⟩, ⟨.opening, 4⟩, ⟨.name "Stmt", 5⟩, ⟨.dot, 9⟩, ⟨.closing, 10⟩] := by
    decide
  have hparse : parse "List<Stmt.>" = .error (.expected .identifier 10) := by decide
  exact ⟨hscan, hparse, (parse_locates hscan (List.cons_ne_nil _ _) hparse).1⟩

end Descriptor
end NodeGen
