/-
What can come next in a descriptor.

Symbols that open `k` lists leave as many brackets to be closed, so a sentence that
starts with them is a sentence between them and `k` closing brackets
(`Opens.complete_iff`).  Which symbols can come next, and where a sentence can be over,
is read off that.

The grammar lets any text be a name.  That makes no difference to what is viable, since a
name that is no identifier can be replaced by one that is (`viable_iff_text`).
-/
import NodeGen.Proofs.Descriptor.Printing

namespace NodeGen
namespace Descriptor

/-- The symbols start `k` lists, each inside the one before it. -/
inductive Opens : Nat → List Symbol → Prop where
  | nil : Opens 0 []
  | list {k : Nat} {pre : List Symbol} (h : Opens k pre) (q : Option String) :
    Opens (k + 1) (pre ++ (headSymbols q listName ++ [.opening]))

def closings (k : Nat) : List Symbol := List.replicate k .closing

theorem follows_closings (k : Nat) : Follows (closings k) := by
  cases k with
  | zero => exact follows_nil
  | succ k => exact follows_closing _

theorem complete_iff {ss : List Symbol} :
    Complete ss ↔ ∃ t : Derivation, t.WrapsLists ∧ t.symbols = ss := by
  constructor
  · rintro ⟨d, hd⟩
    obtain ⟨t, hwraps, hsymbols, -⟩ := derives_iff.mp hd
    exact ⟨t, hwraps, hsymbols⟩
  · rintro ⟨t, hwraps, rfl⟩
    exact ⟨_, t.derives hwraps⟩

namespace Derivation

/-- A derivation starts with a head, and what comes after that does not make it
longer. -/
theorem exists_head (t : Derivation) :
    ∃ q n tail, t.symbols = headSymbols q n ++ tail ∧
      ∀ k, (tail ++ closings k).head? ≠ some .dot := by
  cases t with
  | bare q n =>
    refine ⟨q, n, [], (List.append_nil _).symm, fun k hdot => ?_⟩
    exact (follows_closings k).head?_ne_dot none rfl hdot
  | wrapped q n t => exact ⟨q, n, _, rfl, fun k hdot => by simp at hdot⟩

/-- A name before a dot is a qualifier. -/
theorem exists_name_of_dot {t : Derivation} {k : Nat} {q : String} {rest : List Symbol}
    (h : .name q :: .dot :: rest = t.symbols ++ closings k) : ∃ n more, rest = .name n :: more := by
  obtain ⟨q', n, tail, hhead, htail⟩ := t.exists_head
  rw [hhead, List.append_assoc] at h
  cases q' with
  | none =>
    have hdot : .dot :: rest = tail ++ closings k := (List.cons.inj h).2
    exact absurd (hdot ▸ rfl) (htail k)
  | some q' => exact ⟨n, tail ++ closings k, (List.cons.inj (List.cons.inj h).2).2⟩

/-- A head before an opening bracket is that of a wrapper. -/
theorem eq_wrapped_of_opening {t : Derivation} {k : Nat} {q : Option String} {n : String}
    {rest : List Symbol} (h : headSymbols q n ++ .opening :: rest = t.symbols ++ closings k) :
    ∃ u, t = wrapped q n u ∧ rest = u.symbols ++ closings (k + 1) := by
  cases t with
  | bare q' n' =>
    obtain ⟨-, -, hrest⟩ := headSymbols_inj h (opening_ne_dot _ q)
      ((follows_closings k).head?_ne_dot q')
    exact absurd (hrest ▸ follows_closings k) not_follows_opening
  | wrapped q' n' u =>
    rw [symbols, List.append_assoc] at h
    obtain ⟨rfl, rfl, hrest⟩ := headSymbols_inj h (opening_ne_dot _ q) (opening_ne_dot _ q')
    refine ⟨u, rfl, ?_⟩
    simpa [closings, List.replicate_succ] using hrest

end Derivation

namespace Opens

variable {k : Nat} {pre ss : List Symbol}

/-- Induction on the lists that are open.  The innermost one is taken off, and its
bracket is the first of those that are left. -/
theorem complete_iff (h : Opens k pre) :
    Complete (pre ++ ss) ↔ ∃ t : Derivation, t.WrapsLists ∧ ss = t.symbols ++ closings k := by
  induction h generalizing ss with
  | nil => simpa [closings, eq_comm] using Descriptor.complete_iff
  | @list k pre _ q ih =>
    rw [List.append_assoc, ih]
    constructor
    · rintro ⟨t, hwraps, hsymbols⟩
      rw [List.append_assoc, List.singleton_append] at hsymbols
      obtain ⟨u, rfl, hrest⟩ := Derivation.eq_wrapped_of_opening hsymbols
      exact ⟨u, hwraps.2, hrest⟩
    · rintro ⟨t, hwraps, rfl⟩
      refine ⟨.wrapped q listName t, ⟨rfl, hwraps⟩, ?_⟩
      simp [Derivation.symbols, closings, List.replicate_succ]

theorem viable_iff (h : Opens k pre) :
    Viable (pre ++ ss) ↔
      ∃ (t : Derivation) (rest : List Symbol), t.WrapsLists ∧
        ss ++ rest = t.symbols ++ closings k := by
  simp only [Viable, List.append_assoc, h.complete_iff]
  exact exists_comm

/-! ## Symbols that can come next -/

/-- The start of a sentence can stand inside any number of lists. -/
theorem viable (h : Opens k pre) {t : Derivation} (hwraps : t.WrapsLists) {more : List Symbol}
    (hsymbols : t.symbols = ss ++ more) : Viable (pre ++ ss) := by
  refine h.viable_iff.mpr ⟨t, more ++ closings k, hwraps, ?_⟩
  rw [hsymbols, List.append_assoc]

theorem viable_closing (h : Opens (k + 1) pre) {t : Derivation} (hwraps : t.WrapsLists) :
    Viable (pre ++ (t.symbols ++ [.closing])) := by
  refine h.viable_iff.mpr ⟨t, closings k, hwraps, ?_⟩
  rw [List.append_assoc]
  rfl

theorem name_of_viable (h : Opens k pre) {s : Symbol} (hviable : Viable (pre ++ [s])) :
    ∃ n, s = .name n := by
  obtain ⟨t, rest, -, hsymbols⟩ := h.viable_iff.mp hviable
  obtain ⟨q, n, tail, hhead, -⟩ := t.exists_head
  rw [hhead, List.append_assoc] at hsymbols
  cases q with
  | none => exact ⟨n, (List.cons.inj hsymbols).1⟩
  | some q => exact ⟨q, (List.cons.inj hsymbols).1⟩

theorem name_of_viable_dot (h : Opens k pre) {q : String} {s : Symbol}
    (hviable : Viable (pre ++ [.name q, .dot, s])) : ∃ n, s = .name n := by
  obtain ⟨t, rest, -, hsymbols⟩ := h.viable_iff.mp hviable
  obtain ⟨n, more, hname⟩ := Derivation.exists_name_of_dot hsymbols
  exact ⟨n, (List.cons.inj hname).1⟩

theorem list_of_viable (h : Opens k pre) {q : Option String} {n : String}
    (hviable : Viable (pre ++ (headSymbols q n ++ [.opening]))) : n = listName := by
  obtain ⟨t, rest, hwraps, hsymbols⟩ := h.viable_iff.mp hviable
  rw [List.append_assoc, List.singleton_append] at hsymbols
  obtain ⟨u, rfl, -⟩ := Derivation.eq_wrapped_of_opening hsymbols
  exact hwraps.1

/-- After a sentence there can only be the bracket of the list that it is in. -/
theorem closing_of_viable (h : Opens k pre) {t : Derivation} {s : Symbol} (hs : t.Ends s)
    (hviable : Viable (pre ++ (t.symbols ++ [s]))) : k ≠ 0 ∧ s = .closing := by
  obtain ⟨t', rest, -, hsymbols⟩ := h.viable_iff.mp hviable
  rw [List.append_assoc, List.singleton_append] at hsymbols
  obtain ⟨-, hrest⟩ := t.eq_of_symbols_cons hs (follows_closings k) hsymbols
  cases k with
  | zero => cases hrest
  | succ k => exact ⟨Nat.succ_ne_zero k, (List.cons.inj hrest).1⟩

/-! ## Symbols that are no sentence -/

theorem not_complete (h : Opens k pre) : ¬ Complete (pre ++ []) := by
  intro hcomplete
  obtain ⟨t, -, hsymbols⟩ := h.complete_iff.mp hcomplete
  exact t.symbols_ne_nil (List.append_eq_nil_iff.mp hsymbols.symm).1

theorem not_complete_dot (h : Opens k pre) (q : String) : ¬ Complete (pre ++ [.name q, .dot]) := by
  intro hcomplete
  obtain ⟨t, -, hsymbols⟩ := h.complete_iff.mp hcomplete
  obtain ⟨n, more, hname⟩ := Derivation.exists_name_of_dot hsymbols
  cases hname

theorem not_complete_open (h : Opens (k + 1) pre) (t : Derivation) :
    ¬ Complete (pre ++ t.symbols) := by
  intro hcomplete
  obtain ⟨t', -, hsymbols⟩ := h.complete_iff.mp hcomplete
  have happend : t.symbols ++ [] = t'.symbols ++ closings (k + 1) :=
    (List.append_nil _).trans hsymbols
  have hclosings := (Derivation.eq_of_symbols_append follows_nil (follows_closings _) happend).2
  cases hclosings

end Opens

/-! ## Names of texts -/

/-- The name if it is an identifier, and some identifier if it is not. -/
def legalName (n : String) : String := if isIdentifier n then n else listName

theorem isIdentifier_legalName (n : String) : isIdentifier (legalName n) = true := by
  unfold legalName
  split
  · assumption
  · decide

def legalSymbol : Symbol → Symbol
  | .name n => .name (legalName n)
  | s => s

theorem legalSymbol_of_identifier {s : Symbol} (h : ∀ n, s = .name n → isIdentifier n = true) :
    legalSymbol s = s := by
  cases s with
  | name n => exact congrArg Symbol.name (if_pos (h n rfl))
  | _ => rfl

theorem isIdentifier_of_legal {n : String} {ss : List Symbol}
    (h : .name n ∈ ss.map legalSymbol) : isIdentifier n = true := by
  obtain ⟨s, -, hs⟩ := List.mem_map.mp h
  cases s with
  | name m =>
    cases hs
    exact isIdentifier_legalName m
  | _ => cases hs

namespace Derivation

def legal : Derivation → Derivation
  | bare q n => bare (q.map legalName) (legalName n)
  | wrapped q n t => wrapped (q.map legalName) (legalName n) t.legal

theorem headSymbols_legal (q : Option String) (n : String) :
    headSymbols (q.map legalName) (legalName n) = (headSymbols q n).map legalSymbol := by
  cases q <;> rfl

theorem symbols_legal (t : Derivation) : t.legal.symbols = t.symbols.map legalSymbol := by
  induction t with
  | bare q n => exact headSymbols_legal q n
  | wrapped q n t ih => simp [legal, symbols, headSymbols_legal, ih, legalSymbol]

theorem wrapsLists_legal {t : Derivation} (h : t.WrapsLists) : t.legal.WrapsLists := by
  induction t with
  | bare q n => trivial
  | wrapped q n t ih =>
    obtain ⟨rfl, hinner⟩ := h
    have hlist : isIdentifier listName = true := by decide
    exact ⟨if_pos hlist, ih hinner⟩

end Derivation

/-- Symbols are viable if the pieces of some text that parses start with them. -/
theorem viable_iff_text {ss : List Symbol} (h : ∀ n, .name n ∈ ss → isIdentifier n = true) :
    Viable ss ↔ ∃ src d pieces, parse src = .ok d ∧ Piece.scan src = .ok pieces ∧
      ss <+: symbolsOf pieces := by
  constructor
  · rintro ⟨rest, hcomplete⟩
    obtain ⟨t, hwraps, hsymbols⟩ := complete_iff.mp hcomplete
    have hnames (n : String) (hn : .name n ∈ t.legal.symbols) : isIdentifier n = true := by
      rw [t.symbols_legal] at hn
      exact isIdentifier_of_legal hn
    obtain ⟨pieces, hscan, hpieces, hparse⟩ :=
      parse_spelled (Derivation.wrapsLists_legal hwraps) hnames
    refine ⟨_, _, pieces, hparse, hscan, rest.map legalSymbol, ?_⟩
    have hkept : ss.map legalSymbol = ss := by
      conv_rhs => rw [← List.map_id ss]
      refine List.map_congr_left fun s hs => legalSymbol_of_identifier ?_
      rintro n rfl
      exact h n hs
    rw [hpieces, t.symbols_legal, hsymbols, List.map_append, hkept]
  · rintro ⟨src, d, pieces, hparse, hscan, rest, hrest⟩
    obtain ⟨pieces', hscan', t, hsymbols, hwraps, -⟩ := parse_eq_ok_iff.mp hparse
    obtain rfl : pieces = pieces' := Except.ok.inj (hscan.symm.trans hscan')
    exact ⟨rest, complete_iff.mpr ⟨t, hwraps, hsymbols.trans hrest.symm⟩⟩

end Descriptor
end NodeGen
