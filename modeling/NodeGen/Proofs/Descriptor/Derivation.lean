/-
Derivations of the descriptor grammar.

A derivation of

    descriptor = name [ "." name ] [ "<" descriptor ">" ]

keeps every choice that the grammar leaves open, the qualifier of a wrapper
included, and puts no condition on the name before `<`.  `WrapsLists` is that
condition, and `descriptor` the tree that a derivation stands for.

The grammar is unambiguous (`symbols_injective`).  What makes it so is that no
derivation starts with anything but a name and that a derivation followed by a
closing bracket, or by nothing, ends in one place only, which is why the lemma
behind it carries the symbols that come after.
-/
import NodeGen.Descriptor.Grammar

namespace NodeGen
namespace Descriptor

inductive Derivation where
  | bare (qualifier : Option String) (name : String)
  | wrapped (qualifier : Option String) (name : String) (inner : Derivation)

/-- The symbols of a name with its qualifier. -/
def headSymbols : Option String → String → List Symbol
  | none, n => [.name n]
  | some q, n => [.name q, .dot, .name n]

namespace Derivation

/-- The sentence that is derived. -/
def symbols : Derivation → List Symbol
  | bare q n => headSymbols q n
  | wrapped q n t => headSymbols q n ++ .opening :: (t.symbols ++ [.closing])

/-- Every name directly before `<` is the list wrapper. -/
def WrapsLists : Derivation → Prop
  | bare _ _ => True
  | wrapped _ n t => n = listName ∧ t.WrapsLists

/-- The tree of the derivation.  The qualifier of a wrapper is dropped. -/
def descriptor : Derivation → Descriptor
  | bare q n => named q n
  | wrapped _ _ t => list t.descriptor

end Derivation

/-! ## Symbols after a sentence -/

/-- Symbols that do not make a sentence before them longer. -/
def Follows (ss : List Symbol) : Prop := ∀ s ∈ ss.head?, s ≠ .dot ∧ s ≠ .opening

theorem follows_nil : Follows [] := by
  intro s hs
  simp at hs

theorem follows_closing (ss : List Symbol) : Follows (.closing :: ss) := by
  intro s hs
  obtain rfl : Symbol.closing = s := by simpa using hs
  exact ⟨by decide, by decide⟩

theorem not_follows_dot {ss : List Symbol} : ¬ Follows (.dot :: ss) :=
  fun h => (h .dot rfl).1 rfl

theorem not_follows_opening {ss : List Symbol} : ¬ Follows (.opening :: ss) :=
  fun h => (h .opening rfl).2 rfl

/-- A head can be told from what comes after it, unless a dot can make it longer. -/
theorem headSymbols_inj {q q' : Option String} {n n' : String} {rest rest' : List Symbol}
    (h : headSymbols q n ++ rest = headSymbols q' n' ++ rest')
    (hrest : q = none → rest.head? ≠ some .dot) (hrest' : q' = none → rest'.head? ≠ some .dot) :
    q = q' ∧ n = n' ∧ rest = rest' := by
  cases q with
  | none =>
    cases q' with
    | none =>
      simp only [headSymbols, List.cons_append, List.nil_append, List.cons.injEq,
        Symbol.name.injEq] at h
      exact ⟨rfl, h.1, h.2⟩
    | some q' =>
      simp only [headSymbols, List.cons_append, List.nil_append, List.cons.injEq] at h
      exact absurd (by rw [h.2]; rfl) (hrest rfl)
  | some q =>
    cases q' with
    | none =>
      simp only [headSymbols, List.cons_append, List.nil_append, List.cons.injEq] at h
      exact absurd (by rw [← h.2]; rfl) (hrest' rfl)
    | some q' =>
      simp only [headSymbols, List.cons_append, List.nil_append, List.cons.injEq,
        Symbol.name.injEq, true_and] at h
      exact ⟨congrArg some h.1, h.2.1, h.2.2⟩

theorem Follows.head?_ne_dot {ss : List Symbol} (h : Follows ss) (q : Option String) :
    q = none → ss.head? ≠ some .dot :=
  fun _ hdot => (h .dot hdot).1 rfl

theorem opening_ne_dot (ss : List Symbol) (q : Option String) :
    q = none → (Symbol.opening :: ss).head? ≠ some .dot :=
  fun _ hdot => by simp at hdot

/-! ## Unambiguity -/

namespace Derivation

/-- Induction on the first derivation.  The rest of the input is kept apart, since
the closing bracket of a wrapper is the rest of the derivation inside it. -/
theorem eq_of_symbols_append {t t' : Derivation} {rest rest' : List Symbol}
    (hrest : Follows rest) (hrest' : Follows rest')
    (h : t.symbols ++ rest = t'.symbols ++ rest') : t = t' ∧ rest = rest' := by
  induction t generalizing t' rest rest' with
  | bare q n =>
    cases t' with
    | bare q' n' =>
      obtain ⟨rfl, rfl, rfl⟩ := headSymbols_inj h (hrest.head?_ne_dot q) (hrest'.head?_ne_dot q')
      exact ⟨rfl, rfl⟩
    | wrapped q' n' t' =>
      rw [symbols, symbols, List.append_assoc] at h
      obtain ⟨-, -, rfl⟩ := headSymbols_inj h (hrest.head?_ne_dot q) (opening_ne_dot _ q')
      exact absurd hrest not_follows_opening
  | wrapped q n t ih =>
    cases t' with
    | bare q' n' =>
      rw [symbols, symbols, List.append_assoc] at h
      obtain ⟨-, -, rfl⟩ := headSymbols_inj h (opening_ne_dot _ q) (hrest'.head?_ne_dot q')
      exact absurd hrest' not_follows_opening
    | wrapped q' n' t' =>
      rw [symbols, symbols, List.append_assoc, List.append_assoc] at h
      obtain ⟨rfl, rfl, hinner⟩ := headSymbols_inj h (opening_ne_dot _ q) (opening_ne_dot _ q')
      simp only [List.cons_append, List.append_assoc, List.cons.injEq, true_and,
        List.nil_append] at hinner
      obtain ⟨rfl, hclose⟩ := ih (follows_closing rest) (follows_closing rest') hinner
      exact ⟨rfl, (List.cons.inj hclose).2⟩

theorem symbols_injective {t t' : Derivation} (h : t.symbols = t'.symbols) : t = t' := by
  have happend : t.symbols ++ [] = t'.symbols ++ [] := by rw [h]
  exact (eq_of_symbols_append follows_nil follows_nil happend).1

theorem symbols_ne_nil (t : Derivation) : t.symbols ≠ [] := by
  cases t with
  | bare q n => cases q <;> exact List.cons_ne_nil _ _
  | wrapped q n t => cases q <;> exact List.cons_ne_nil _ _

/-- The symbol is no part of the derivation that it comes after. -/
def Ends : Derivation → Symbol → Prop
  | bare q _, s => (q = none → s ≠ .dot) ∧ s ≠ .opening
  | wrapped _ _ _, _ => True

/-- Only the second derivation has to be followed by a closing bracket or nothing.
After the first one comes whatever is no part of it. -/
theorem eq_of_symbols_cons {t t' : Derivation} {s : Symbol} {rest rest' : List Symbol}
    (hs : t.Ends s) (hrest' : Follows rest')
    (h : t.symbols ++ s :: rest = t'.symbols ++ rest') : t = t' ∧ s :: rest = rest' := by
  cases t with
  | bare q n =>
    obtain ⟨hdot, hopening⟩ := hs
    have hhead : q = none → (s :: rest).head? ≠ some .dot :=
      fun hq heq => hdot hq (Option.some.inj heq)
    cases t' with
    | bare q' n' =>
      obtain ⟨rfl, rfl, hrest⟩ := headSymbols_inj h hhead (hrest'.head?_ne_dot q')
      exact ⟨rfl, hrest⟩
    | wrapped q' n' t' =>
      rw [symbols, symbols, List.append_assoc] at h
      obtain ⟨-, -, hrest⟩ := headSymbols_inj h hhead (opening_ne_dot _ q')
      exact absurd (List.cons.inj hrest).1 hopening
  | wrapped q n t =>
    cases t' with
    | bare q' n' =>
      rw [symbols, symbols, List.append_assoc] at h
      obtain ⟨-, -, rfl⟩ := headSymbols_inj h (opening_ne_dot _ q) (hrest'.head?_ne_dot q')
      exact absurd hrest' not_follows_opening
    | wrapped q' n' t' =>
      rw [symbols, symbols, List.append_assoc, List.append_assoc] at h
      obtain ⟨rfl, rfl, hinner⟩ := headSymbols_inj h (opening_ne_dot _ q) (opening_ne_dot _ q')
      simp only [List.cons_append, List.append_assoc, List.cons.injEq, true_and,
        List.nil_append] at hinner
      obtain ⟨rfl, hclose⟩ :=
        eq_of_symbols_append (follows_closing _) (follows_closing _) hinner
      exact ⟨rfl, (List.cons.inj hclose).2⟩

/-! ## The relation of the grammar -/

theorem derives {t : Derivation} (h : t.WrapsLists) : Derives t.symbols t.descriptor := by
  induction t with
  | bare q n =>
    cases q with
    | none => exact .plain n
    | some q => exact .qualified q n
  | wrapped q n t ih =>
    obtain ⟨rfl, hinner⟩ := h
    cases q with
    | none => exact .list (ih hinner)
    | some q => exact .qualifiedList q (ih hinner)

end Derivation

/-- The relation holds where there is a derivation whose wrappers are lists. -/
theorem derives_iff {ss : List Symbol} {d : Descriptor} :
    Derives ss d ↔ ∃ t : Derivation, t.WrapsLists ∧ t.symbols = ss ∧ t.descriptor = d := by
  constructor
  · intro h
    induction h with
    | plain n => exact ⟨.bare none n, trivial, rfl, rfl⟩
    | qualified q n => exact ⟨.bare (some q) n, trivial, rfl, rfl⟩
    | list _ ih =>
      obtain ⟨t, hwraps, rfl, rfl⟩ := ih
      exact ⟨.wrapped none listName t, ⟨rfl, hwraps⟩, rfl, rfl⟩
    | qualifiedList q _ ih =>
      obtain ⟨t, hwraps, rfl, rfl⟩ := ih
      exact ⟨.wrapped (some q) listName t, ⟨rfl, hwraps⟩, rfl, rfl⟩
  · rintro ⟨t, hwraps, rfl, rfl⟩
    exact t.derives hwraps

end Descriptor
end NodeGen
