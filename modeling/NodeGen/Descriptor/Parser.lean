/-
Reading a descriptor.

`parseTree` follows the grammar

    descriptor = name [ "." name ] [ "<" descriptor ">" ]

piece by piece, where the name before `<` has to be the list wrapper.  The
qualifier of a wrapper is dropped, since a list belongs to no family.
-/
import NodeGen.Descriptor.Basic
import NodeGen.Descriptor.Piece

namespace NodeGen
namespace Descriptor

/-- The offset of the first piece, or the size of the whole text when none is
left. -/
def nextOffset (size : Nat) : List Piece → Nat
  | [] => size
  | p :: _ => p.offset

/-- Completes a list whose element has been read. -/
def closeList (size : Nat) (element : Descriptor) :
    List Piece → Except DescriptorError (Descriptor × List Piece)
  | ⟨.closing, _⟩ :: rest => .ok (list element, rest)
  | rest => .error (.expected .closingBracket (nextOffset size rest))

/-- The descriptor that the pieces start with, and the pieces after it. -/
def parseTree (size : Nat) : List Piece → Except DescriptorError (Descriptor × List Piece)
  | ⟨.name _, _⟩ :: ⟨.dot, _⟩ :: ⟨.name n, _⟩ :: ⟨.opening, _⟩ :: rest =>
    if n = listName then do
      let (element, rest) ← parseTree size rest
      closeList size element rest
    else .error (.unknownWrapper n)
  | ⟨.name q, _⟩ :: ⟨.dot, _⟩ :: ⟨.name n, _⟩ :: rest => .ok (named (some q) n, rest)
  | ⟨.name _, _⟩ :: ⟨.dot, _⟩ :: rest => .error (.expected .identifier (nextOffset size rest))
  | ⟨.name n, _⟩ :: ⟨.opening, _⟩ :: rest =>
    if n = listName then do
      let (element, rest) ← parseTree size rest
      closeList size element rest
    else .error (.unknownWrapper n)
  | ⟨.name n, _⟩ :: rest => .ok (named none n, rest)
  | rest => .error (.expected .identifier (nextOffset size rest))

/-- The descriptor that all the pieces of a text of `size` bytes make up. -/
def ofPieces (size : Nat) (pieces : List Piece) : Except DescriptorError Descriptor :=
  if pieces = [] then .error .empty
  else do
    let (d, rest) ← parseTree size pieces
    match rest with
    | [] => .ok d
    | p :: _ => .error (.trailing p.offset)

def parse (src : String) : Except DescriptorError Descriptor := do
  let pieces ← Piece.scan src
  ofPieces (Text.byteSize src) pieces

end Descriptor
end NodeGen
