/-
The grammar of descriptors.

`Derives symbols d` says that the symbols are a sentence of

    descriptor = name [ "." name ] [ "<" descriptor ">" ]

and `d` is its tree.  The name before `<` is the list wrapper.  A qualifier on a
wrapper leaves no trace in the tree, so a tree can have several sentences.
`symbols` gives the one that its printed form consists of.
-/
import NodeGen.Descriptor.Basic
import NodeGen.Descriptor.Piece

namespace NodeGen
namespace Descriptor

inductive Derives : List Symbol → Descriptor → Prop where
  | plain (n : String) : Derives [.name n] (named none n)
  | qualified (q n : String) : Derives [.name q, .dot, .name n] (named (some q) n)
  | list {symbols : List Symbol} {d : Descriptor} (h : Derives symbols d) :
    Derives (.name listName :: .opening :: (symbols ++ [.closing])) (list d)
  | qualifiedList (q : String) {symbols : List Symbol} {d : Descriptor} (h : Derives symbols d) :
    Derives (.name q :: .dot :: .name listName :: .opening :: (symbols ++ [.closing])) (list d)

/-- The symbols of the printed form. -/
def symbols : Descriptor → List Symbol
  | named none n => [.name n]
  | named (some q) n => [.name q, .dot, .name n]
  | list d => .name listName :: .opening :: (d.symbols ++ [.closing])

theorem derives_symbols (d : Descriptor) : Derives d.symbols d := by
  induction d with
  | named q n =>
    cases q with
    | none => exact Derives.plain n
    | some q => exact Derives.qualified q n
  | list d ih => exact Derives.list ih

/-! ## Sentences and what they start with -/

/-- The symbols are a sentence. -/
def Complete (ss : List Symbol) : Prop := ∃ d, Derives ss d

/-- Some sentence starts with the symbols. -/
def Viable (ss : List Symbol) : Prop := ∃ rest, Complete (ss ++ rest)

end Descriptor
end NodeGen
