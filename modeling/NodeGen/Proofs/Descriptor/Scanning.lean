/-
Successful scans.

`Scans` has a constructor for each way in which the scanner deals with one
character, and holds where the scanner succeeds (`scans_of_ok`).  Facts about the
pieces of a text are inductions on it.  The names among the pieces are
identifiers, and so is the innermost name of every descriptor that is read.
-/
import Mathlib.Data.String.Basic
import NodeGen.Proofs.Descriptor.Parsing

namespace NodeGen

/-! ## Characters of names -/

theorem isAscii_of_isWordChar {c : Char} (h : isWordChar c = true) : c.toNat < 0x80 := by
  have hranges : (decide (c.val ≥ 'A'.val ∧ c.val ≤ 'Z'.val) ||
      (decide (c.val ≥ 'a'.val) && decide (c.val ≤ 'z'.val)) ||
      (decide (c.val ≥ '0'.val) && decide (c.val ≤ '9'.val)) || c == '_') = true := h
  simp only [Bool.or_eq_true, Bool.and_eq_true, decide_eq_true_eq, beq_iff_eq,
    UInt32.le_iff_toNat_le] at hranges
  have hval : c.toNat = c.val.toNat := rfl
  rcases hranges with ((⟨-, hZ⟩ | ⟨-, hz⟩) | ⟨-, h9⟩) | rfl
  · have hZ : c.val.toNat ≤ 90 := hZ
    omega
  · have hz : c.val.toNat ≤ 122 := hz
    omega
  · have h9 : c.val.toNat ≤ 57 := h9
    omega
  · decide

/-- A property of characters of names can be checked on ASCII. -/
theorem of_isWordChar {P : Char → Prop} [DecidablePred P]
    (hascii : ∀ n < 0x80, isWordChar (Char.ofNat n) = true → P (Char.ofNat n)) {c : Char}
    (h : isWordChar c = true) : P c := by
  have hc := hascii c.toNat (isAscii_of_isWordChar h)
  rw [Char.ofNat_toNat] at hc
  exact hc h

theorem isBlank_of_isWordChar {c : Char} (h : isWordChar c = true) : Text.isBlank c = false :=
  of_isWordChar (P := fun c => Text.isBlank c = false) (by decide) h

theorem punctuation?_of_isWordChar {c : Char} (h : isWordChar c = true) :
    punctuation? c = none :=
  of_isWordChar (P := fun c => punctuation? c = none) (by decide) h

theorem isBlank_of_punctuation? {c : Char} {s : Symbol} (h : punctuation? c = some s) :
    Text.isBlank c = false := by
  unfold punctuation? at h
  split at h
  · subst c
    exact Text.isBlank_dot
  split at h
  · subst c
    exact Text.isBlank_lt
  split at h
  · subst c
    exact Text.isBlank_gt
  · cases h

theorem isWordChar_of_punctuation? {c : Char} {s : Symbol} (h : punctuation? c = some s) :
    isWordChar c = false := by
  rw [Bool.eq_false_iff]
  intro hword
  rw [punctuation?_of_isWordChar hword] at h
  cases h

theorem isIdentifier_cons {s : String} (h : isIdentifier s = true) :
    ∃ c rest, s.toList = c :: rest ∧ isWordStart c = true ∧ ∀ d ∈ rest, isWordChar d = true := by
  unfold isIdentifier at h
  split at h
  · cases h
  · rename_i c rest hs
    obtain ⟨hc, hrest⟩ := Bool.and_eq_true_iff.mp h
    exact ⟨c, rest, hs, hc, List.all_eq_true.mp hrest⟩

theorem isWordChar_of_isIdentifier {s : String} (h : isIdentifier s = true) :
    ∀ c ∈ s.toList, isWordChar c = true := by
  obtain ⟨c, rest, hs, hc, hrest⟩ := isIdentifier_cons h
  intro d hd
  rw [hs] at hd
  rcases List.mem_cons.mp hd with rfl | hd
  · exact isWordChar_of_isWordStart hc
  · exact hrest d hd

namespace Piece

/-- The scanner reads `cs` at `offset`, adds `word` to the name before it, and
finds `pieces`. -/
inductive Scans : Bool → Nat → List Char → List Char → List Piece → Prop where
  | done (inName : Bool) (offset : Nat) : Scans inName offset [] [] []
  | wordChar {offset : Nat} {c : Char} {rest word : List Char} {pieces : List Piece}
      (hc : isWordChar c = true) (next : Scans true (offset + c.utf8Size) rest word pieces) :
      Scans true offset (c :: rest) (c :: word) pieces
  | blank {inName : Bool} {offset : Nat} {c : Char} {rest word : List Char} {pieces : List Piece}
      (hc : Text.isBlank c = true) (next : Scans false (offset + c.utf8Size) rest word pieces) :
      Scans inName offset (c :: rest) [] pieces
  | punctuation {inName : Bool} {offset : Nat} {c : Char} {s : Symbol} {rest word : List Char}
      {pieces : List Piece} (hc : punctuation? c = some s)
      (next : Scans false (offset + c.utf8Size) rest word pieces) :
      Scans inName offset (c :: rest) [] (⟨s, offset⟩ :: pieces)
  | wordStart {inName : Bool} {offset : Nat} {c : Char} {rest word : List Char}
      {pieces : List Piece} (hc : isWordStart c = true)
      (next : Scans true (offset + c.utf8Size) rest word pieces) :
      Scans inName offset (c :: rest) [] (⟨.name (String.ofList (c :: word)), offset⟩ :: pieces)

theorem scans_of_ok {inName : Bool} {offset : Nat} {cs word : List Char} {pieces : List Piece}
    (h : scanFrom inName offset cs = .ok (word, pieces)) :
    Scans inName offset cs word pieces := by
  induction cs generalizing inName offset word pieces with
  | nil =>
    cases h
    exact .done inName offset
  | cons c rest ih =>
    simp only [scanFrom] at h
    split at h
    · rename_i hword
      obtain ⟨rfl, hc⟩ := Bool.and_eq_true_iff.mp hword
      obtain ⟨⟨word', pieces'⟩, hrest, heq⟩ := map_ok h
      cases heq
      exact .wordChar hc (ih hrest)
    split at h
    · rename_i hblank
      obtain ⟨⟨word', pieces'⟩, hrest, heq⟩ := map_ok h
      cases heq
      exact .blank hblank (ih hrest)
    split at h
    · rename_i s hpunctuation
      obtain ⟨⟨word', pieces'⟩, hrest, heq⟩ := map_ok h
      cases heq
      exact .punctuation hpunctuation (ih hrest)
    split at h
    · rename_i hstart
      obtain ⟨⟨word', pieces'⟩, hrest, heq⟩ := map_ok h
      cases heq
      exact .wordStart hstart (ih hrest)
    · cases h

/-! ## Names -/

theorem isIdentifier_ofList {c : Char} {word : List Char} (hc : isWordStart c = true)
    (hword : ∀ d ∈ word, isWordChar d = true) :
    isIdentifier (String.ofList (c :: word)) = true := by
  simp only [isIdentifier, String.toList_ofList, hc, Bool.true_and]
  exact List.all_eq_true.mpr hword

theorem punctuation?_ne_name {c : Char} {n : String} : punctuation? c ≠ some (.name n) := by
  unfold punctuation?
  split
  · simp
  split
  · simp
  split <;> simp

/-- The word is part of the invariant, as it completes the name before it. -/
theorem Scans.names {inName : Bool} {offset : Nat} {cs word : List Char} {pieces : List Piece}
    (h : Scans inName offset cs word pieces) :
    (∀ c ∈ word, isWordChar c = true) ∧
      ∀ n, Symbol.name n ∈ pieces.map Piece.symbol → isIdentifier n = true := by
  induction h with
  | done =>
    constructor
    · intro c hc
      cases hc
    · intro n hn
      cases hn
  | wordChar hc _ ih =>
    refine ⟨?_, ih.2⟩
    intro d hd
    rcases List.mem_cons.mp hd with rfl | hd
    · exact hc
    · exact ih.1 d hd
  | blank _ _ ih => exact ⟨fun c hc => (List.not_mem_nil hc).elim, ih.2⟩
  | punctuation hc _ ih =>
    refine ⟨fun c hc => (List.not_mem_nil hc).elim, ?_⟩
    intro n hn
    rcases List.mem_cons.mp hn with rfl | hn
    · exact absurd hc punctuation?_ne_name
    · exact ih.2 n hn
  | wordStart hc _ ih =>
    refine ⟨fun c hc => (List.not_mem_nil hc).elim, ?_⟩
    intro n hn
    rcases List.mem_cons.mp hn with heq | hn
    · cases heq
      exact isIdentifier_ofList hc ih.1
    · exact ih.2 n hn

theorem isIdentifier_of_scan {src : String} {pieces : List Piece} (h : scan src = .ok pieces)
    {n : String} (hn : Symbol.name n ∈ pieces.map Piece.symbol) : isIdentifier n = true := by
  obtain ⟨⟨word, pieces'⟩, hscan, rfl⟩ := map_ok h
  exact (scans_of_ok hscan).names.2 n hn

/-! ## Offsets -/

/-- The pieces start one after the other, between the two offsets. -/
structure Placed (first last : Nat) (pieces : List Piece) : Prop where
  within : ∀ p ∈ pieces, first ≤ p.offset ∧ p.offset < last
  sorted : pieces.Pairwise fun p q => p.offset < q.offset

theorem Placed.mono {first next last : Nat} {pieces : List Piece} (h : Placed next last pieces)
    (hle : first ≤ next) : Placed first last pieces :=
  ⟨fun p hp => ⟨hle.trans (h.within p hp).1, (h.within p hp).2⟩, h.sorted⟩

theorem Placed.cons {first next last : Nat} {pieces : List Piece} (h : Placed next last pieces)
    (hnext : first < next) (hlast : first < last) (s : Symbol) :
    Placed first last (⟨s, first⟩ :: pieces) := by
  constructor
  · intro p hp
    rcases List.mem_cons.mp hp with rfl | hp
    · exact ⟨le_refl first, hlast⟩
    · exact (h.mono hnext.le).within p hp
  · refine List.pairwise_cons.mpr ⟨fun p hp => ?_, h.sorted⟩
    exact hnext.trans_le (h.within p hp).1

theorem Scans.placed {inName : Bool} {offset : Nat} {cs word : List Char} {pieces : List Piece}
    (h : Scans inName offset cs word pieces) :
    Placed offset (offset + String.utf8Len cs) pieces := by
  have hstep (offset : Nat) (c : Char) (rest : List Char) :
      offset + c.utf8Size + String.utf8Len rest = offset + String.utf8Len (c :: rest) ∧
        offset < offset + c.utf8Size ∧ offset < offset + String.utf8Len (c :: rest) := by
    have hc := c.utf8Size_pos
    rw [String.utf8Len_cons]
    omega
  induction h with
  | done => exact ⟨fun p hp => (List.not_mem_nil hp).elim, .nil⟩
  | @wordChar offset c rest _ _ _ _ ih
  | @blank _ offset c rest _ _ _ _ ih =>
    obtain ⟨hend, hnext, -⟩ := hstep offset c rest
    exact (hend ▸ ih).mono hnext.le
  | @punctuation _ offset c _ rest _ _ _ _ ih
  | @wordStart _ offset c rest _ _ _ _ ih =>
    obtain ⟨hend, hnext, hlast⟩ := hstep offset c rest
    exact (hend ▸ ih).cons hnext hlast _

theorem placed_of_scan {src : String} {pieces : List Piece} (h : scan src = .ok pieces) :
    Placed 0 (Text.byteSize src) pieces := by
  obtain ⟨⟨word, pieces'⟩, hscan, rfl⟩ := map_ok h
  have hplaced := (scans_of_ok hscan).placed
  rwa [← String.utf8ByteSize_ofList, String.ofList_toList, Nat.zero_add] at hplaced

end Piece

namespace Descriptor

/-- Every name in the tree, qualifiers included. -/
def names : Descriptor → List String
  | named q n => q.toList ++ [n]
  | list d => d.names

theorem innermostName_mem_names (d : Descriptor) : d.innermostName ∈ d.names := by
  induction d with
  | named q n => exact List.mem_append_right _ List.mem_cons_self
  | list d ih => exact ih

theorem Derivation.names_mem_symbols (t : Derivation) {n : String} (hn : n ∈ t.descriptor.names) :
    Symbol.name n ∈ t.symbols := by
  induction t with
  | bare q m => cases q <;> simpa [descriptor, names, symbols, headSymbols] using hn
  | wrapped q m t ih =>
    have hinner : Symbol.name n ∈ t.symbols ++ [.closing] := List.mem_append_left _ (ih hn)
    exact List.mem_append_right _ (List.mem_cons_of_mem _ hinner)

theorem isIdentifier_names {src : String} {d : Descriptor} (h : parse src = .ok d) :
    ∀ n ∈ d.names, isIdentifier n = true := by
  obtain ⟨pieces, hscan, t, hsymbols, -, rfl⟩ := parse_eq_ok_iff.mp h
  intro n hn
  have hname : Symbol.name n ∈ pieces.map Piece.symbol :=
    (congrArg (Symbol.name n ∈ ·) hsymbols).mp (t.names_mem_symbols hn)
  exact Piece.isIdentifier_of_scan hscan hname

theorem isIdentifier_innermostName {src : String} {d : Descriptor} (h : parse src = .ok d) :
    isIdentifier d.innermostName = true :=
  isIdentifier_names h _ d.innermostName_mem_names

end Descriptor
end NodeGen
