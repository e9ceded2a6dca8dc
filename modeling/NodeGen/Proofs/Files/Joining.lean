/-
Names of joined paths.

A path text is cut at its slashes, so a slash between two texts cuts between them and
the names of the joined path are those of its two parts.  A file that is put in a
directory under its own name therefore has that name last, however the path of the
directory is written.
-/
import NodeGen.Files.Disk

namespace NodeGen
namespace Path

/-! ## Cutting at slashes -/

theorem segments_ne_nil (cs : List Char) : segments cs ≠ [] := by
  induction cs with
  | nil => simp [segments]
  | cons c rest ih =>
    rw [segments]
    split
    · simp
    · split <;> simp

theorem segments_append_slash (a b : List Char) :
    segments (a ++ '/' :: b) = segments a ++ segments b := by
  induction a with
  | nil => rfl
  | cons c rest ih =>
    rw [List.cons_append, segments, segments, ih]
    by_cases hc : c = '/'
    · rw [if_pos hc, if_pos hc, List.cons_append]
    · rw [if_neg hc, if_neg hc]
      cases hrest : segments rest with
      | nil => exact absurd hrest (segments_ne_nil rest)
      | cons s more => rfl

theorem map_name_partsFrom (offset : Nat) (ss : List (List Char)) :
    (partsFrom offset ss).map Part.name = ss.map String.ofList := by
  induction ss generalizing offset with
  | nil => rfl
  | cons s rest ih =>
    rw [partsFrom, List.map_cons, List.map_cons, ih]

theorem names_ofText (text : String) :
    (ofText text).names = ((segments text.toList).map String.ofList).filter (· ≠ "") := by
  rw [← map_name_partsFrom 0, List.filter_map]
  rfl

/-! ## Joining -/

theorem names_slash (a b : String) :
    (ofText (a ++ "/" ++ b)).names = (ofText a).names ++ (ofText b).names := by
  have htext : (a ++ "/" ++ b).toList = a.toList ++ '/' :: b.toList := by simp
  rw [names_ofText, htext, segments_append_slash, List.map_append, List.filter_append,
    ← names_ofText, ← names_ofText]

theorem names_empty : (ofText "").names = [] := rfl

/-- A text that ends in a slash is the one before it with a slash. -/
theorem exists_eq_slash {text : String} (h : text.toList.getLast? = some '/') :
    ∃ a, text = a ++ "/" := by
  obtain ⟨before, hbefore⟩ := List.getLast?_eq_some_iff.mp h
  refine ⟨String.ofList before, ?_⟩
  rw [← String.toList_inj, String.toList_append, String.toList_ofList, hbefore]
  rfl

theorem names_join {base path : String} (h : isAbsolute path = false) :
    (ofText (join base path)).names = (ofText base).names ++ (ofText path).names := by
  rw [join, h, Bool.false_or]
  by_cases hempty : base = ""
  · rw [if_pos (by simp [hempty]), hempty, names_empty, List.nil_append]
  · rw [if_neg (by simp [hempty])]
    split
    · rename_i hslash
      obtain ⟨a, rfl⟩ := exists_eq_slash (by simpa using hslash)
      have hbase := names_slash a ""
      rw [String.append_empty, names_empty, List.append_nil] at hbase
      rw [names_slash, hbase]
    · exact names_slash base path

theorem isAbsolute_join {base path : String} (h : isAbsolute path = false) :
    isAbsolute (join base path) = isAbsolute base := by
  rw [join, h, Bool.false_or]
  by_cases hempty : base = ""
  · rw [if_pos (by simp [hempty]), h, hempty]
    rfl
  · have hhead : ∀ more : String, isAbsolute (base ++ more) = isAbsolute base := by
      intro more
      rw [isAbsolute, isAbsolute, String.toList_append]
      cases hbase : base.toList with
      | nil => exact absurd (String.toList_inj.mp hbase) hempty
      | cons c rest => rfl
    rw [if_neg (by simp [hempty])]
    split
    · exact hhead path
    · rw [String.append_assoc]
      exact hhead _

end Path

/-! ## Absolute paths -/

namespace Disk

variable {d : Disk} {path other full : String}

/-- A path from the root is kept, and another one starts in the current directory. -/
theorem absolute_cases (h : d.absolute path = .ok full) :
    Path.isAbsolute path = true ∧ full = path ∨
      Path.isAbsolute path = false ∧
        ∃ base, d.tree.currentDirectory = .ok base ∧ full = Path.join base path := by
  rw [absolute] at h
  split at h <;> rename_i hstart
  · cases h
    exact .inl ⟨hstart, rfl⟩
  · cases hcurrent : d.tree.currentDirectory with
    | error e =>
      rw [hcurrent] at h
      cases h
    | ok base =>
      rw [hcurrent] at h
      cases h
      exact .inr ⟨by simpa using hstart, base, rfl, rfl⟩

theorem absolute_relative {base : String} (hpath : Path.isAbsolute path = false)
    (hbase : d.tree.currentDirectory = .ok base) : d.absolute path = .ok (Path.join base path) := by
  rw [absolute, hpath, hbase]
  rfl

theorem getLast?_names_absolute {name : String} (h : d.absolute path = .ok full)
    (hname : (Path.ofText path).names.getLast? = some name) :
    (Path.ofText full).names.getLast? = some name := by
  rcases absolute_cases h with ⟨-, rfl⟩ | ⟨hrelative, base, -, rfl⟩
  · exact hname
  · rw [Path.names_join hrelative, List.getLast?_append, hname]
    rfl

/-- Whether a path can be made absolute is a matter of its first character. -/
theorem absolute_of_sameStart (h : d.absolute path = .ok full)
    (hsame : Path.isAbsolute other = Path.isAbsolute path) :
    ∃ full', d.absolute other = .ok full' := by
  rcases absolute_cases h with ⟨hstart, -⟩ | ⟨hrelative, base, hbase, -⟩
  · exact ⟨other, if_pos (hsame.trans hstart)⟩
  · exact ⟨_, absolute_relative (hsame.trans hrelative) hbase⟩

end Disk
end NodeGen
