/-
Letter case.

Names are compared and lowered by their ASCII letters only.  Capitalizing a
name raises its first character by the full Unicode mapping, under which one
character may become several.
-/
import NodeGen.Text.UpperCase

namespace NodeGen
namespace Text

/-! ## ASCII case -/

def lowerAscii (s : String) : String :=
  String.ofList (s.toList.map Char.toLower)

/-- Two texts that differ at most in the case of their ASCII letters. -/
def sameLetters (a b : String) : Bool :=
  lowerAscii a == lowerAscii b

theorem sameLetters_iff {a b : String} : sameLetters a b = true ↔ lowerAscii a = lowerAscii b := by
  simp [sameLetters]

theorem sameLetters_refl (a : String) : sameLetters a a = true :=
  sameLetters_iff.2 rfl

theorem sameLetters_symm {a b : String} (h : sameLetters a b = true) : sameLetters b a = true :=
  sameLetters_iff.2 (sameLetters_iff.1 h).symm

theorem sameLetters_trans {a b c : String} (hab : sameLetters a b = true)
    (hbc : sameLetters b c = true) : sameLetters a c = true :=
  sameLetters_iff.2 ((sameLetters_iff.1 hab).trans (sameLetters_iff.1 hbc))

/-! ## Upper case -/

/-- The full upper case of a character.  An ASCII letter needs no table. -/
def upper (c : Char) : List Char :=
  if c.toNat < 0x80 then [c.toUpper] else UpperCase.mapping c

def capitalize (s : String) : String :=
  match s.toList with
  | [] => ""
  | c :: rest => String.ofList (upper c ++ rest)

theorem upper_ascii {c : Char} (h : c.toNat < 0x80) : upper c = [c.toUpper] :=
  if_pos h

theorem toList_capitalize {s : String} {c : Char} {rest : List Char} (h : s.toList = c :: rest) :
    (capitalize s).toList = upper c ++ rest := by
  simp [capitalize, h]

end Text
end NodeGen
