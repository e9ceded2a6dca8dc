/-
Reading UTF-8.

The automaton reads a character from exactly the bytes that encode it.  `Sequence` lists
the well-formed byte sequences with their code points, in the form of the table of the
Unicode standard: the second byte of three or four has a narrower range after some leads,
which excludes the overlong forms, the surrogates and what lies above the last character.
Encoding and reading are both compared with this table.
-/
import NodeGen.Text.Utf8

namespace NodeGen
namespace Text

/-- A byte that goes on with a character. -/
def Continues (b : UInt8) : Prop := 0x80 ≤ b.toNat ∧ b.toNat ≤ 0xBF

/-- The bytes are the well-formed sequence of the code point. -/
inductive Sequence : Bytes → Nat → Prop where
  | one {b : UInt8} (ascii : b.toNat ≤ 0x7F) : Sequence [b] b.toNat
  | two {b b' : UInt8} (lead : 0xC2 ≤ b.toNat ∧ b.toNat ≤ 0xDF) (second : Continues b') :
      Sequence [b, b'] (b.toNat % 32 * 64 + b'.toNat % 64)
  | three {b b' b'' : UInt8} (lead : 0xE0 ≤ b.toNat ∧ b.toNat ≤ 0xEF) (second : Continues b')
      (overlong : b.toNat = 0xE0 → 0xA0 ≤ b'.toNat)
      (surrogate : b.toNat = 0xED → b'.toNat ≤ 0x9F) (third : Continues b'') :
      Sequence [b, b', b''] ((b.toNat % 16 * 64 + b'.toNat % 64) * 64 + b''.toNat % 64)
  | four {b b' b'' b''' : UInt8} (lead : 0xF0 ≤ b.toNat ∧ b.toNat ≤ 0xF4)
      (second : Continues b') (overlong : b.toNat = 0xF0 → 0x90 ≤ b'.toNat)
      (above : b.toNat = 0xF4 → b'.toNat ≤ 0x8F) (third : Continues b'')
      (fourth : Continues b''') :
      Sequence [b, b', b'', b''']
        (((b.toNat % 8 * 64 + b'.toNat % 64) * 64 + b''.toNat % 64) * 64 + b'''.toNat % 64)

/-! ## Encoding -/

theorem Sequence.of_eq {bytes : Bytes} {n m : Nat} (h : Sequence bytes n) (hn : n = m) :
    Sequence bytes m :=
  hn ▸ h

theorem sequence_utf8EncodeChar (c : Char) : Sequence (String.utf8EncodeChar c) c.toNat := by
  have hvalid : c.toNat.isValidChar := c.valid
  have hval : c.val.toNat = c.toNat := rfl
  simp only [Nat.isValidChar] at hvalid
  simp only [String.utf8EncodeChar, hval]
  generalize c.toNat = n at hvalid ⊢
  split
  · refine (Sequence.one ?_).of_eq ?_ <;> simp only [UInt8.toNat_ofNat'] <;> omega
  split
  · refine (Sequence.two ?_ ?_).of_eq ?_ <;> simp only [Continues, UInt8.toNat_ofNat'] <;> omega
  split
  · refine (Sequence.three ?_ ?_ ?_ ?_ ?_).of_eq ?_ <;>
      simp only [Continues, UInt8.toNat_ofNat'] <;> omega
  · refine (Sequence.four ?_ ?_ ?_ ?_ ?_ ?_).of_eq ?_ <;>
      simp only [Continues, UInt8.toNat_ofNat'] <;> omega

theorem Sequence.isValidChar {bytes : Bytes} {n : Nat} (h : Sequence bytes n) : n.isValidChar := by
  cases h <;> simp only [Nat.isValidChar, Continues] at * <;> omega

theorem Sequence.eq_utf8EncodeChar {bytes : Bytes} {n : Nat} (h : Sequence bytes n) :
    bytes = String.utf8EncodeChar (Char.ofNat n) := by
  have hchar : (Char.ofNat n).val.toNat = n := by
    rw [Char.ofNat, dif_pos h.isValidChar]
    rfl
  simp only [String.utf8EncodeChar, hchar]
  cases h with
  | one ascii => rw [if_pos ascii, UInt8.ofNat_toNat]
  | two lead second =>
    rw [Continues] at second
    rw [if_neg (by omega), if_pos (by omega)]
    simp only [List.cons.injEq, ← UInt8.toNat_inj, UInt8.toNat_ofNat', and_true]
    omega
  | three lead second overlong surrogate third =>
    rw [Continues] at second third
    rw [if_neg (by omega), if_neg (by omega), if_pos (by omega)]
    simp only [List.cons.injEq, ← UInt8.toNat_inj, UInt8.toNat_ofNat', and_true]
    omega
  | four lead second overlong above third fourth =>
    rw [Continues] at second third fourth
    rw [if_neg (by omega), if_neg (by omega), if_neg (by omega)]
    simp only [List.cons.injEq, ← UInt8.toNat_inj, UInt8.toNat_ofNat', and_true]
    omega

/-! ## Reading -/

namespace Utf8

theorem start_ascii {b : UInt8} (h : b.toNat ≤ 0x7F) :
    start b = ([some (Char.ofNat b.toNat)], .ready) := by
  have hb : b < 0x80 := UInt8.lt_iff_toNat_lt.mpr (Nat.lt_succ_of_le h)
  rw [start, if_pos hb]

/-- What may follow a lead byte, by the value of the byte. -/
theorem lead?_eq (b : UInt8) :
    lead? b =
      let n := b.toNat
      if 0xC2 ≤ n ∧ n ≤ 0xDF then some (.within 0 0x80 0xBF (n % 32))
      else if n = 0xE0 then some (.within 1 0xA0 0xBF 0)
      else if n = 0xED then some (.within 1 0x80 0x9F 13)
      else if 0xE1 ≤ n ∧ n ≤ 0xEF then some (.within 1 0x80 0xBF (n % 16))
      else if n = 0xF0 then some (.within 2 0x90 0xBF 0)
      else if 0xF1 ≤ n ∧ n ≤ 0xF3 then some (.within 2 0x80 0xBF (n % 8))
      else if n = 0xF4 then some (.within 2 0x80 0x8F 4)
      else none := by
  simp only [lead?, Bool.and_eq_true, decide_eq_true_eq, UInt8.le_iff_toNat_le,
    ← UInt8.toNat_inj, UInt8.reduceToNat]

theorem lead?_two {b : UInt8} (h : 0xC2 ≤ b.toNat ∧ b.toNat ≤ 0xDF) :
    lead? b = some (.within 0 0x80 0xBF (b.toNat % 32)) := by
  rw [lead?_eq]
  grind

theorem within_iff {lo hi b : UInt8} :
    (lo ≤ b && b ≤ hi) = true ↔ lo.toNat ≤ b.toNat ∧ b.toNat ≤ hi.toNat := by
  simp only [Bool.and_eq_true, decide_eq_true_eq, UInt8.le_iff_toNat_le]

theorem lead?_three {b : UInt8} (h : 0xE0 ≤ b.toNat ∧ b.toNat ≤ 0xEF) :
    ∃ lo hi, lead? b = some (.within 1 lo hi (b.toNat % 16)) ∧
      ∀ b', (lo ≤ b' && b' ≤ hi) = true ↔ Continues b' ∧
        (b.toNat = 0xE0 → 0xA0 ≤ b'.toNat) ∧ (b.toNat = 0xED → b'.toNat ≤ 0x9F) := by
  simp only [lead?_eq, within_iff, Continues]
  by_cases hE0 : b.toNat = 0xE0
  · refine ⟨0xA0, 0xBF, by grind, fun b' => ?_⟩
    simp only [UInt8.reduceToNat]
    omega
  by_cases hED : b.toNat = 0xED
  · refine ⟨0x80, 0x9F, by grind, fun b' => ?_⟩
    simp only [UInt8.reduceToNat]
    omega
  · refine ⟨0x80, 0xBF, by grind, fun b' => ?_⟩
    simp only [UInt8.reduceToNat]
    omega

theorem lead?_four {b : UInt8} (h : 0xF0 ≤ b.toNat ∧ b.toNat ≤ 0xF4) :
    ∃ lo hi, lead? b = some (.within 2 lo hi (b.toNat % 8)) ∧
      ∀ b', (lo ≤ b' && b' ≤ hi) = true ↔ Continues b' ∧
        (b.toNat = 0xF0 → 0x90 ≤ b'.toNat) ∧ (b.toNat = 0xF4 → b'.toNat ≤ 0x8F) := by
  simp only [lead?_eq, within_iff, Continues]
  by_cases hF0 : b.toNat = 0xF0
  · refine ⟨0x90, 0xBF, by grind, fun b' => ?_⟩
    simp only [UInt8.reduceToNat]
    omega
  by_cases hF4 : b.toNat = 0xF4
  · refine ⟨0x80, 0x8F, by grind, fun b' => ?_⟩
    simp only [UInt8.reduceToNat]
    omega
  · refine ⟨0x80, 0xBF, by grind, fun b' => ?_⟩
    simp only [UInt8.reduceToNat]
    omega

theorem lead?_ne_ready (b : UInt8) : lead? b ≠ some .ready := by
  rw [lead?_eq]
  grind

theorem lead?_none {b : UInt8} (hlow : b.toNat ≤ 0xC1 ∨ 0xF5 ≤ b.toNat) :
    lead? b = none := by
  rw [lead?_eq]
  grind

theorem read_ascii {b : UInt8} (h : b.toNat ≤ 0x7F) (bs : Bytes) :
    read .ready (b :: bs) = some (Char.ofNat b.toNat) :: read .ready bs := by
  rw [read, step, start_ascii h]
  rfl

theorem start_lead {b : UInt8} (h : 0x80 ≤ b.toNat) :
    start b = match lead? b with
      | some state => ([], state)
      | none => ([none], .ready) := by
  have hascii : ¬ b < 0x80 := fun hlt => Nat.not_lt.mpr h (UInt8.lt_iff_toNat_lt.mp hlt)
  exact if_neg hascii

/-- A lead byte puts the automaton within a character. -/
theorem read_lead {b : UInt8} {state : State} (hb : 0x80 ≤ b.toNat) (h : lead? b = some state)
    (bs : Bytes) : read .ready (b :: bs) = read state bs := by
  rw [read, step, start_lead hb, h]
  rfl

theorem read_unreadable {b : UInt8} (hb : 0x80 ≤ b.toNat) (h : lead? b = none) (bs : Bytes) :
    read .ready (b :: bs) = none :: read .ready bs := by
  rw [read, step, start_lead hb, h]
  rfl

variable {lo hi : UInt8} {code : Nat}

theorem read_last {b : UInt8} (h : (lo ≤ b && b ≤ hi) = true) (bs : Bytes) :
    read (.within 0 lo hi code) (b :: bs) =
      some (Char.ofNat (code * 64 + b.toNat % 64)) :: read .ready bs := by
  rw [read, step, if_pos h]
  rfl

theorem read_next {b : UInt8} (h : (lo ≤ b && b ≤ hi) = true) (more : Nat) (bs : Bytes) :
    read (.within (more + 1) lo hi code) (b :: bs) =
      read (.within more 0x80 0xBF (code * 64 + b.toNat % 64)) bs := by
  rw [read, step, if_pos h]
  rfl

/-- Within a character that is completed there comes a byte of the range. -/
theorem exists_of_read_within {more : Nat} {bs : Bytes} {c : Char} {items : List (Option Char)}
    (h : read (.within more lo hi code) bs = some c :: items) :
    ∃ b rest, bs = b :: rest ∧ (lo ≤ b && b ≤ hi) = true := by
  cases bs with
  | nil => simp [read] at h
  | cons b rest =>
    by_cases hb : (lo ≤ b && b ≤ hi) = true
    · exact ⟨b, rest, rfl, hb⟩
    · rw [read, step, if_neg hb] at h
      simp at h

theorem continues_iff {b : UInt8} : (0x80 ≤ b && b ≤ 0xBF) = true ↔ Continues b :=
  within_iff

theorem read_sequence {bytes : Bytes} {n : Nat} (h : Sequence bytes n) (bs : Bytes) :
    read .ready (bytes ++ bs) = some (Char.ofNat n) :: read .ready bs := by
  cases h with
  | one ascii => exact read_ascii ascii bs
  | two lead second =>
    rw [List.cons_append, read_lead (by omega) (lead?_two lead), List.cons_append,
      read_last (continues_iff.mpr second), List.nil_append]
  | three lead second overlong surrogate third =>
    obtain ⟨lo, hi, hlead, hrange⟩ := lead?_three lead
    rw [List.cons_append, read_lead (by omega) hlead, List.cons_append,
      read_next ((hrange _).mpr ⟨second, overlong, surrogate⟩), List.cons_append,
      read_last (continues_iff.mpr third), List.nil_append]
  | four lead second overlong above third fourth =>
    obtain ⟨lo, hi, hlead, hrange⟩ := lead?_four lead
    rw [List.cons_append, read_lead (by omega) hlead, List.cons_append,
      read_next ((hrange _).mpr ⟨second, overlong, above⟩), List.cons_append,
      read_next (continues_iff.mpr third), List.cons_append,
      read_last (continues_iff.mpr fourth), List.nil_append]

/-- A character that is read stands at the front as a sequence. -/
theorem exists_sequence_of_read {bs : Bytes} {c : Char} {items : List (Option Char)}
    (h : read .ready bs = some c :: items) :
    ∃ bytes n rest, Sequence bytes n ∧ bs = bytes ++ rest := by
  cases bs with
  | nil => cases h
  | cons b rest =>
    by_cases hascii : b.toNat ≤ 0x7F
    · exact ⟨[b], _, rest, .one hascii, rfl⟩
    have hb : 0x80 ≤ b.toNat := by omega
    by_cases htwo : 0xC2 ≤ b.toNat ∧ b.toNat ≤ 0xDF
    · rw [read_lead hb (lead?_two htwo)] at h
      obtain ⟨b', rest, rfl, hb'⟩ := exists_of_read_within h
      exact ⟨[b, b'], _, rest, .two htwo (continues_iff.mp hb'), rfl⟩
    by_cases hthree : 0xE0 ≤ b.toNat ∧ b.toNat ≤ 0xEF
    · obtain ⟨lo, hi, hlead, hrange⟩ := lead?_three hthree
      rw [read_lead hb hlead] at h
      obtain ⟨b', rest, rfl, hb'⟩ := exists_of_read_within h
      rw [read_next hb'] at h
      obtain ⟨b'', rest, rfl, hb''⟩ := exists_of_read_within h
      obtain ⟨second, overlong, surrogate⟩ := (hrange b').mp hb'
      exact ⟨[b, b', b''], _, rest,
        .three hthree second overlong surrogate (continues_iff.mp hb''), rfl⟩
    by_cases hfour : 0xF0 ≤ b.toNat ∧ b.toNat ≤ 0xF4
    · obtain ⟨lo, hi, hlead, hrange⟩ := lead?_four hfour
      rw [read_lead hb hlead] at h
      obtain ⟨b', rest, rfl, hb'⟩ := exists_of_read_within h
      rw [read_next hb'] at h
      obtain ⟨b'', rest, rfl, hb''⟩ := exists_of_read_within h
      rw [read_next hb''] at h
      obtain ⟨b₃, rest, rfl, hb₃⟩ := exists_of_read_within h
      obtain ⟨second, overlong, above⟩ := (hrange b').mp hb'
      exact ⟨[b, b', b'', b₃], _, rest, .four hfour second overlong above
        (continues_iff.mp hb'') (continues_iff.mp hb₃), rfl⟩
    · rw [read_unreadable hb (lead?_none (by omega))] at h
      cases h

theorem read_ready_eq_cons_iff {bs : Bytes} {c : Char} {items : List (Option Char)} :
    read .ready bs = some c :: items ↔
      ∃ rest, bs = String.utf8EncodeChar c ++ rest ∧ items = read .ready rest := by
  constructor
  · intro h
    obtain ⟨bytes, n, rest, hsequence, rfl⟩ := exists_sequence_of_read h
    rw [read_sequence hsequence] at h
    obtain ⟨hc, rfl⟩ := List.cons.inj h
    obtain rfl := Option.some.inj hc
    exact ⟨rest, by rw [← hsequence.eq_utf8EncodeChar], rfl⟩
  · rintro ⟨rest, rfl, rfl⟩
    rw [read_sequence (sequence_utf8EncodeChar c), Char.ofNat_toNat]

/-- A character that is begun comes out, as a character or as an unreadable item. -/
theorem read_within_ne_nil (more : Nat) (lo hi : UInt8) (code : Nat) (bs : Bytes) :
    read (.within more lo hi code) bs ≠ [] := by
  induction bs generalizing more lo hi code with
  | nil => exact List.cons_ne_nil none []
  | cons b rest ih =>
    by_cases hb : (lo ≤ b && b ≤ hi) = true
    · cases more with
      | zero =>
        rw [read_last hb]
        exact List.cons_ne_nil _ _
      | succ more =>
        rw [read_next hb]
        exact ih more _ _ _
    · rw [read, step, if_neg hb]
      exact List.cons_ne_nil none _

theorem read_ready_eq_nil_iff {bs : Bytes} : read .ready bs = [] ↔ bs = [] := by
  cases bs with
  | nil => exact iff_of_true rfl rfl
  | cons b rest =>
    refine iff_of_false ?_ (List.cons_ne_nil b rest)
    by_cases hascii : b.toNat ≤ 0x7F
    · rw [read_ascii hascii]
      exact List.cons_ne_nil _ _
    have hb : 0x80 ≤ b.toNat := by omega
    cases hlead : lead? b with
    | none =>
      rw [read_unreadable hb hlead]
      exact List.cons_ne_nil _ _
    | some state =>
      rw [read_lead hb hlead]
      cases state with
      | ready => exact absurd hlead (lead?_ne_ready b)
      | within more lo hi code => exact read_within_ne_nil more lo hi code rest

theorem read_ready_eq_map_iff {bs : Bytes} {cs : List Char} :
    read .ready bs = cs.map some ↔ bs = cs.flatMap String.utf8EncodeChar := by
  induction cs generalizing bs with
  | nil => exact read_ready_eq_nil_iff
  | cons c rest ih =>
    rw [List.map_cons, read_ready_eq_cons_iff, List.flatMap_cons]
    constructor
    · rintro ⟨more, rfl, hmore⟩
      rw [ih.mp hmore.symm]
    · rintro rfl
      exact ⟨_, rfl, (ih.mpr rfl).symm⟩

end Utf8

theorem mapM_id_eq_some_iff {α : Type} {items : List (Option α)} {as : List α} :
    items.mapM id = some as ↔ items = as.map some := by
  induction items generalizing as with
  | nil => cases as <;> simp
  | cons item rest ih =>
    rw [List.mapM_cons]
    cases item with
    | none => cases as <;> simp
    | some a =>
      show (rest.mapM id).bind (fun more => some (a :: more)) = some as ↔ _
      rw [Option.bind_eq_some_iff]
      constructor
      · rintro ⟨more, hmore, has⟩
        obtain rfl := Option.some.inj has
        rw [ih.mp hmore, List.map_cons]
      · cases as with
        | nil => exact fun h => nomatch h
        | cons b more =>
          intro h
          obtain ⟨ha, hrest⟩ := List.cons.inj h
          obtain rfl := Option.some.inj ha
          exact ⟨more, ih.mpr hrest, rfl⟩

/-- The bytes that are text are those that some text is written as. -/
theorem decode?_eq_some_iff {bs : Bytes} {s : String} : decode? bs = some s ↔ encode s = bs := by
  rw [decode?, Option.map_eq_some_iff, encode]
  constructor
  · rintro ⟨cs, hcs, rfl⟩
    rw [mapM_id_eq_some_iff, Utf8.read_ready_eq_map_iff] at hcs
    rw [String.toList_ofList, hcs]
  · rintro rfl
    exact ⟨s.toList, mapM_id_eq_some_iff.mpr (Utf8.read_ready_eq_map_iff.mpr rfl),
      String.ofList_toList⟩

end Text
end NodeGen
