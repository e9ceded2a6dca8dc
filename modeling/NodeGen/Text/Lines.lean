/-
Assembling text.
-/
import NodeGen.Text.Utf8

namespace NodeGen
namespace Text

/-- The texts in order, with the separator between neighbours. -/
def joinWith (separator : String) : List String → String
  | [] => ""
  | [s] => s
  | s :: rest => s ++ separator ++ joinWith separator rest

/-- Text followed by spaces up to `width` characters. -/
def padTo (width : Nat) (s : String) : String :=
  s ++ String.ofList (List.replicate (width - s.length) ' ')

/-- The largest length in bytes, zero when there is no text. -/
def widest (texts : List String) : Nat :=
  (texts.map byteSize).foldr max 0

theorem joinWith_singleton (separator s : String) : joinWith separator [s] = s := rfl

theorem joinWith_cons_cons (separator s t : String) (rest : List String) :
    joinWith separator (s :: t :: rest) = s ++ separator ++ joinWith separator (t :: rest) := rfl

theorem joinWith_append (separator : String) {a b : List String} (ha : a ≠ []) (hb : b ≠ []) :
    joinWith separator (a ++ b) = joinWith separator a ++ separator ++ joinWith separator b := by
  induction a with
  | nil => exact absurd rfl ha
  | cons s rest ih =>
    cases rest with
    | nil =>
      cases b with
      | nil => exact absurd rfl hb
      | cons t more => rfl
    | cons u more =>
      have h := ih (List.cons_ne_nil u more)
      simp only [List.cons_append] at h ⊢
      rw [joinWith_cons_cons, joinWith_cons_cons, h]
      simp only [String.append_assoc]

theorem byteSize_le_widest {s : String} {texts : List String} (h : s ∈ texts) :
    byteSize s ≤ widest texts := by
  induction texts with
  | nil => cases h
  | cons t rest ih =>
    simp only [widest, List.map_cons, List.foldr_cons] at ih ⊢
    rcases List.mem_cons.1 h with rfl | h
    · exact Nat.le_max_left _ _
    · exact Nat.le_trans (ih h) (Nat.le_max_right _ _)

end Text
end NodeGen
