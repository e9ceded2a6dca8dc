/-
Text between blanks.

Trimming takes the blanks off both ends of a text.  `Between` says so without a word on
how the text is gone through, and `between_iff` that there is only one such text.
-/
import NodeGen.Text.Blank

namespace NodeGen
namespace Text

def AllBlank (cs : List Char) : Prop := ∀ c ∈ cs, isBlank c = true

/-- The core is the text without the blanks at its two ends. -/
structure Between (s core : String) : Prop where
  split : ∃ before after, s.toList = before ++ core.toList ++ after ∧
    AllBlank before ∧ AllBlank after
  first : ∀ c, core.toList.head? = some c → isBlank c = false
  last : ∀ c, core.toList.getLast? = some c → isBlank c = false

theorem dropWhile_blanks {before cs : List Char} (hbefore : AllBlank before)
    (hfirst : ∀ c, cs.head? = some c → isBlank c = false) :
    (before ++ cs).dropWhile isBlank = cs := by
  rw [List.dropWhile_append_of_pos hbefore]
  cases cs with
  | nil => rfl
  | cons c rest => exact List.dropWhile_cons_of_neg (by simp [hfirst c rfl])

/-- What is left after the blanks begins with no blank. -/
theorem isBlank_head_dropWhile {cs : List Char} {c : Char}
    (h : (cs.dropWhile isBlank).head? = some c) : isBlank c = false := by
  have hnot := List.head?_dropWhile_not isBlank cs
  rw [h] at hnot
  exact hnot

theorem allBlank_takeWhile (cs : List Char) : AllBlank (cs.takeWhile isBlank) :=
  List.all_eq_true.mp List.all_takeWhile

theorem AllBlank.reverse {cs : List Char} (h : AllBlank cs) : AllBlank cs.reverse :=
  fun c hc => h c (List.mem_reverse.mp hc)

theorem trim_of_between {s core : String} (h : Between s core) : trim s = core := by
  obtain ⟨⟨before, after, hs, hbefore, hafter⟩, hfirst, hlast⟩ := h
  have hinner : ((s.toList.dropWhile isBlank).reverse.dropWhile isBlank).reverse =
      core.toList := by
    rw [hs, List.append_assoc]
    cases hcore : core.toList with
    | nil =>
      -- Everything is blank, so nothing is left for the other end.
      have hall : AllBlank (before ++ after) := List.forall_mem_append.mpr ⟨hbefore, hafter⟩
      have hnothing : (before ++ after ++ []).dropWhile isBlank = [] :=
        dropWhile_blanks hall fun _ h => nomatch h
      rw [List.append_nil] at hnothing
      rw [List.nil_append, hnothing]
      rfl
    | cons d more =>
      rw [hcore] at hfirst hlast
      have hfront : (before ++ (d :: more ++ after)).dropWhile isBlank = d :: more ++ after :=
        dropWhile_blanks hbefore hfirst
      have hback : (after.reverse ++ (d :: more).reverse).dropWhile isBlank =
          (d :: more).reverse :=
        dropWhile_blanks hafter.reverse fun c hc => hlast c (by rwa [List.head?_reverse] at hc)
      rw [hfront, List.reverse_append, hback, List.reverse_reverse]
  rw [trim, hinner, String.ofList_toList]

theorem between_trim (s : String) : Between s (trim s) := by
  let rest := s.toList.dropWhile isBlank
  have hcore : (trim s).toList = (rest.reverse.dropWhile isBlank).reverse :=
    String.toList_ofList
  have hrest : rest = (trim s).toList ++ (rest.reverse.takeWhile isBlank).reverse := by
    rw [hcore, ← List.reverse_append, List.takeWhile_append_dropWhile, List.reverse_reverse]
  have hs : s.toList = s.toList.takeWhile isBlank ++ rest := List.takeWhile_append_dropWhile.symm
  refine
    { split := ⟨s.toList.takeWhile isBlank, (rest.reverse.takeWhile isBlank).reverse, ?_,
        allBlank_takeWhile _, (allBlank_takeWhile _).reverse⟩
      first := fun c hc => ?_
      last := fun c hc => ?_ }
  · rw [List.append_assoc, ← hrest]
    exact hs
  · have hhead : rest.head? = some c := by
      rw [hrest, List.head?_append, hc]
      rfl
    exact isBlank_head_dropWhile hhead
  · rw [hcore, List.getLast?_reverse] at hc
    exact isBlank_head_dropWhile hc

theorem between_iff {s core : String} : Between s core ↔ core = trim s := by
  constructor
  · exact fun h => (trim_of_between h).symm
  · rintro rfl
    exact between_trim s

end Text
end NodeGen
