/-
Cuts of a text.

The scanner reads a text once, character by character.  What it finds is said here of
the text as a whole: a character is misplaced or not by what stands before it, the
names are the maximal runs of characters of names, and the pieces with the blanks
between them make up the text.
-/
import Mathlib.Data.List.TakeWhile
import NodeGen.Proofs.Descriptor.Printing

namespace NodeGen

/-! ## Misplaced characters -/

/-- A descriptor has no other characters than these. -/
def Allowed (c : Char) : Prop :=
  Text.isBlank c = true ∨ c ∈ ['.', '<', '>'] ∨ isWordChar c = true

instance (c : Char) : Decidable (Allowed c) :=
  inferInstanceAs (Decidable (_ ∨ _ ∨ _))

/-- A digit is misplaced where a name would begin with it. -/
def Misplaced (inName : Bool) (c : Char) : Prop :=
  ¬ Allowed c ∨ c.isDigit = true ∧ inName = false

instance (inName : Bool) (c : Char) : Decidable (Misplaced inName c) :=
  inferInstanceAs (Decidable (_ ∨ _))

theorem mem_punctuation_iff {c : Char} : c ∈ ['.', '<', '>'] ↔ ∃ s, punctuation? c = some s := by
  unfold punctuation?
  simp only [List.mem_cons, List.not_mem_nil, or_false]
  split
  · simp [*]
  split
  · simp [*]
  split <;> simp [*]

theorem isWordChar_of_isDigit {c : Char} (h : c.isDigit = true) : isWordChar c = true := by
  simp only [isWordChar, Char.isAlphanum, h, Bool.or_true, Bool.true_or]

theorem isWordStart_iff {c : Char} : isWordStart c = true ↔ isWordChar c = true ∧ c.isDigit = false := by
  constructor
  · intro h
    have hword := isWordChar_of_isWordStart h
    exact ⟨hword, of_isWordChar (P := fun c => isWordStart c = true → c.isDigit = false)
      (by decide) hword h⟩
  · rintro ⟨hword, hdigit⟩
    simpa only [isWordChar, isWordStart, Char.isAlphanum, hdigit, Bool.or_false] using hword

theorem misplaced_word {inName : Bool} {c : Char} (h : isWordChar c = true) :
    Misplaced inName c ↔ isWordStart c = false ∧ inName = false := by
  have hallowed : Allowed c := .inr (.inr h)
  rw [Misplaced, ← Bool.not_eq_true (isWordStart c), isWordStart_iff]
  simp [hallowed, h]

theorem not_misplaced_blank {inName : Bool} {c : Char} (h : Text.isBlank c = true) :
    ¬ Misplaced inName c := by
  rintro (hno | ⟨hdigit, -⟩)
  · exact hno (.inl h)
  · rw [isBlank_of_isWordChar (isWordChar_of_isDigit hdigit)] at h
    cases h

theorem not_misplaced_punctuation {inName : Bool} {c : Char} {s : Symbol}
    (h : punctuation? c = some s) : ¬ Misplaced inName c := by
  rintro (hno | ⟨hdigit, -⟩)
  · exact hno (.inr (.inl (mem_punctuation_iff.mpr ⟨s, h⟩)))
  · rw [punctuation?_of_isWordChar (isWordChar_of_isDigit hdigit)] at h
    cases h

namespace Piece

/-! ## Steps of the scanner -/

/-- What is read from the character at `offset` on, where `r` is read after it. -/
def readBefore (inName : Bool) (offset : Nat) (c : Char) (r : List Char × List Piece) :
    List Char × List Piece :=
  if isWordChar c then
    if inName then (c :: r.1, r.2)
    else ([], ⟨.name (String.ofList (c :: r.1)), offset⟩ :: r.2)
  else ([], (punctuation? c).toList.map (⟨·, offset⟩) ++ r.2)

theorem scanFrom_misplaced {inName : Bool} {c : Char} (h : Misplaced inName c) (offset : Nat)
    (rest : List Char) :
    scanFrom inName offset (c :: rest) = .error (.unexpectedChar c offset) := by
  have hblank : Text.isBlank c = false := by
    rw [Bool.eq_false_iff]
    exact fun hblank => not_misplaced_blank hblank h
  have hpunctuation : punctuation? c = none := by
    rw [Option.eq_none_iff_forall_ne_some]
    exact fun s hs => not_misplaced_punctuation hs h
  have hname : (inName && isWordChar c) = false ∧ isWordStart c = false := by
    cases hword : isWordChar c with
    | true =>
      obtain ⟨hstart, hout⟩ := (misplaced_word hword).mp h
      exact ⟨by rw [hout]; rfl, hstart⟩
    | false =>
      refine ⟨Bool.and_false inName, Bool.eq_false_iff.mpr fun hstart => ?_⟩
      rw [isWordChar_of_isWordStart hstart] at hword
      cases hword
  simp only [scanFrom, hname, hblank, hpunctuation, Bool.false_eq_true, if_false]

theorem scanFrom_placed {inName : Bool} {c : Char} (h : ¬ Misplaced inName c) (offset : Nat)
    (rest : List Char) :
    scanFrom inName offset (c :: rest) =
      (scanFrom (isWordChar c) (offset + c.utf8Size) rest).map (readBefore inName offset c) := by
  unfold readBefore
  cases hword : isWordChar c with
  | true =>
    cases inName with
    | true =>
      simp only [scanFrom, hword, Bool.and_self, if_true]
    | false =>
      have hstart : isWordStart c = true := by
        rw [misplaced_word hword] at h
        simpa using h
      simp only [scanFrom, hword, Bool.false_and, Bool.false_eq_true, if_false, if_true,
        isBlank_of_isWordChar hword, punctuation?_of_isWordChar hword, hstart]
  | false =>
    simp only [scanFrom, hword, Bool.and_false, Bool.false_eq_true, if_false]
    cases hpunctuation : punctuation? c with
    | some s =>
      simp only [isBlank_of_punctuation? hpunctuation, Bool.false_eq_true, if_false]
      rfl
    | none =>
      have hblank : Text.isBlank c = true := by
        have hallowed : Allowed c := not_not.mp fun hno => h (.inl hno)
        rcases hallowed with hblank | hmem | hc
        · exact hblank
        · obtain ⟨s, hs⟩ := mem_punctuation_iff.mp hmem
          rw [hs] at hpunctuation
          cases hpunctuation
        · rw [hc] at hword
          cases hword
      simp only [hblank, if_true]
      rfl

end Piece

/-! ## Texts without a misplaced character -/

/-- The text ends in a character of a name. -/
def endsInName (cs : List Char) : Bool := cs.getLast?.any isWordChar

/-- The text starts with a character of a name. -/
def startsInName (cs : List Char) : Bool := cs.head?.any isWordChar

theorem endsInName_append (cs : List Char) (c : Char) : endsInName (cs ++ [c]) = isWordChar c := by
  rw [endsInName, List.getLast?_append, List.getLast?_singleton]
  rfl

/-- No character of the text is misplaced. -/
def WellPlaced (cs : List Char) : Prop :=
  ∀ before c after, cs = before ++ c :: after → ¬ Misplaced (endsInName before) c

theorem wellPlaced_nil : WellPlaced [] := by
  intro before c after h
  simp at h

theorem WellPlaced.concat {cs : List Char} {c : Char} (h : WellPlaced cs)
    (hc : ¬ Misplaced (endsInName cs) c) : WellPlaced (cs ++ [c]) := by
  intro before d after hsplit
  rcases List.eq_nil_or_concat' after with rfl | ⟨after, e, rfl⟩
  · obtain ⟨rfl, hd⟩ := List.append_inj' hsplit rfl
    obtain rfl := List.singleton_inj.mp hd
    exact hc
  · rw [← List.cons_append, ← List.append_assoc] at hsplit
    exact h before d after (List.append_inj' hsplit rfl).1

/-- `c` is the first misplaced character of the text, and stands after `before`. -/
def FirstMisplaced (cs before : List Char) (c : Char) : Prop :=
  WellPlaced before ∧ Misplaced (endsInName before) c ∧ ∃ after, cs = before ++ c :: after

theorem FirstMisplaced.not_wellPlaced {cs before : List Char} {c : Char}
    (h : FirstMisplaced cs before c) : ¬ WellPlaced cs := by
  obtain ⟨-, hc, after, hsplit⟩ := h
  exact fun hwell => hwell before c after hsplit hc

theorem FirstMisplaced.unique {cs before before' : List Char} {c c' : Char}
    (h : FirstMisplaced cs before c) (h' : FirstMisplaced cs before' c') :
    before = before' ∧ c = c' := by
  obtain ⟨hwell, hc, after, rfl⟩ := h
  obtain ⟨hwell', hc', after', hsplit⟩ := h'
  -- If one of them came earlier, it would stand in what is before the other.
  rcases List.append_eq_append_iff.mp hsplit with ⟨mid, rfl, hmid⟩ | ⟨mid, rfl, hmid⟩
  · cases mid with
    | nil =>
      cases hmid
      exact ⟨(List.append_nil before).symm, rfl⟩
    | cons d mid =>
      cases hmid
      exact absurd hc (hwell' before c mid rfl)
  · cases mid with
    | nil =>
      cases hmid
      exact ⟨List.append_nil before', rfl⟩
    | cons d mid =>
      cases hmid
      exact absurd hc' (hwell before' c' mid rfl)

/-! ## Maximal runs -/

/-- The text is `before ++ run ++ after`, where `run` is a run of characters of names
with no such character next to it. -/
structure MaximalRun (cs before run after : List Char) : Prop where
  split : cs = before ++ run ++ after
  nonempty : run ≠ []
  word : ∀ c ∈ run, isWordChar c = true
  left : endsInName before = false
  right : startsInName after = false

theorem startsInName_cons {c : Char} {rest : List Char} :
    startsInName (c :: rest) = isWordChar c := rfl

theorem takeWhile_of_startsInName {cs : List Char} (h : startsInName cs = false) :
    cs.takeWhile isWordChar = [] := by
  cases cs with
  | nil => rfl
  | cons c rest =>
    rw [startsInName_cons] at h
    rw [List.takeWhile_cons, h]
    rfl

theorem startsInName_dropWhile (cs : List Char) :
    startsInName (cs.dropWhile isWordChar) = false := by
  have hno := List.head?_dropWhile_not isWordChar cs
  unfold startsInName
  cases hhead : (cs.dropWhile isWordChar).head? with
  | none => rfl
  | some c =>
    rw [hhead] at hno
    exact hno

theorem maximalRun_here {before : List Char} {c : Char} (hbefore : endsInName before = false)
    (hc : isWordChar c = true) (rest : List Char) :
    MaximalRun (before ++ c :: rest) before (c :: rest.takeWhile isWordChar)
      (rest.dropWhile isWordChar) where
  split := by
    rw [List.append_assoc, List.cons_append, List.takeWhile_append_dropWhile]
  nonempty := List.cons_ne_nil _ _
  word := List.forall_mem_cons.mpr ⟨hc, fun _ hd => List.mem_takeWhile_imp hd⟩
  left := hbefore
  right := startsInName_dropWhile rest

/-- A maximal run is known by where it starts. -/
theorem MaximalRun.exists_start {cs before run after : List Char}
    (h : MaximalRun cs before run after) :
    ∃ c rest, cs = before ++ c :: rest ∧ isWordChar c = true ∧
      run = c :: rest.takeWhile isWordChar := by
  obtain ⟨c, word, rfl⟩ := List.exists_cons_of_ne_nil h.nonempty
  obtain ⟨hc, hword⟩ := List.forall_mem_cons.mp h.word
  refine ⟨c, word ++ after, ?_, hc, ?_⟩
  · rw [h.split, List.append_assoc, List.cons_append]
  · rw [List.takeWhile_append_of_pos hword, takeWhile_of_startsInName h.right, List.append_nil]

theorem wellPlaced_iff {cs : List Char} :
    WellPlaced cs ↔ (∀ c ∈ cs, Allowed c) ∧ ∀ before run after, MaximalRun cs before run after →
      ∀ c, run.head? = some c → c.isDigit = false := by
  constructor
  · intro h
    refine ⟨fun c hc => ?_, fun before run after hrun c hhead => ?_⟩
    · obtain ⟨before, after, hsplit⟩ := List.append_of_mem hc
      exact not_not.mp fun hno => h before c after hsplit (.inl hno)
    · obtain ⟨d, rest, hsplit, -, rfl⟩ := hrun.exists_start
      obtain rfl := Option.some.inj hhead
      rw [Bool.eq_false_iff]
      exact fun hdigit => h before d rest hsplit (.inr ⟨hdigit, hrun.left⟩)
  · rintro ⟨hallowed, hruns⟩ before c after rfl hc
    rcases hc with hno | ⟨hdigit, hbefore⟩
    · exact hno (hallowed c (List.mem_append_right before List.mem_cons_self))
    · have hrun := maximalRun_here hbefore (isWordChar_of_isDigit hdigit) after
      rw [hruns _ _ _ hrun c rfl] at hdigit
      cases hdigit

theorem utf8Len_concat (cs : List Char) (c : Char) :
    String.utf8Len cs + c.utf8Size = String.utf8Len (cs ++ [c]) := by
  rw [String.utf8Len_append, String.utf8Len_cons, String.utf8Len_nil, Nat.zero_add]

namespace Piece

/-- The scanner goes on up to the first misplaced character, if there is one. -/
theorem scanFrom_cases {before : List Char} (h : WellPlaced before) (cs : List Char) :
    (WellPlaced (before ++ cs) ∧
      ∃ r, scanFrom (endsInName before) (String.utf8Len before) cs = .ok r) ∨
    ∃ front c, FirstMisplaced (before ++ cs) front c ∧
      scanFrom (endsInName before) (String.utf8Len before) cs =
        .error (.unexpectedChar c (String.utf8Len front)) := by
  induction cs generalizing before with
  | nil => exact .inl ⟨(List.append_nil before).symm ▸ h, _, rfl⟩
  | cons c rest ih =>
    by_cases hc : Misplaced (endsInName before) c
    · exact .inr ⟨before, c, ⟨h, hc, rest, rfl⟩, scanFrom_misplaced hc _ rest⟩
    · have hstep := scanFrom_placed hc (String.utf8Len before) rest
      rw [utf8Len_concat, ← endsInName_append before c] at hstep
      rw [hstep, List.append_cons]
      rcases ih (h.concat hc) with ⟨hwell, r, hr⟩ | ⟨front, d, hfirst, herror⟩
      · exact .inl ⟨hwell, _, congrArg _ hr⟩
      · exact .inr ⟨front, d, hfirst, congrArg _ herror⟩

/-! ## Pieces -/

theorem word_of_scanFrom {inName : Bool} {offset : Nat} {cs word : List Char}
    {pieces : List Piece} (h : scanFrom inName offset cs = .ok (word, pieces)) :
    word = if inName then cs.takeWhile isWordChar else [] := by
  cases inName with
  | false => exact scanFrom_false_word h
  | true =>
    induction cs generalizing offset word pieces with
    | nil => cases h; rfl
    | cons c rest ih =>
      by_cases hc : Misplaced true c
      · rw [scanFrom_misplaced hc] at h
        cases h
      · rw [scanFrom_placed hc] at h
        obtain ⟨r, hr, heq⟩ := map_ok h
        cases hword : isWordChar c with
        | true =>
          rw [hword] at hr
          simp only [readBefore, hword, if_true, Prod.mk.injEq] at heq
          rw [← heq.1, ih hr, if_pos rfl, if_pos rfl, List.takeWhile_cons_of_pos hword]
        | false =>
          simp only [readBefore, hword, Bool.false_eq_true, if_false, Prod.mk.injEq] at heq
          rw [← heq.1, if_pos rfl, List.takeWhile_cons_of_neg (by simp [hword])]

/-- The symbol that starts at `c`, if one does. -/
def startOf (inName : Bool) (c : Char) (after : List Char) : Option Symbol :=
  if isWordChar c then
    if inName then none else some (.name (String.ofList (c :: after.takeWhile isWordChar)))
  else punctuation? c

theorem pieces_readBefore {inName : Bool} {offset next : Nat} {c : Char} {rest : List Char}
    {r : List Char × List Piece} (h : scanFrom (isWordChar c) next rest = .ok r) :
    (readBefore inName offset c r).2 =
      (startOf inName c rest).toList.map (⟨·, offset⟩) ++ r.2 := by
  have hword := word_of_scanFrom h
  unfold readBefore startOf
  cases hc : isWordChar c with
  | false => rfl
  | true =>
    rw [hc, if_pos rfl] at hword
    cases inName with
    | true => rfl
    | false => simp [hword]

/-- The piece starts at `c`, which stands between `before` and `after`. -/
def Starts (before : List Char) (c : Char) (after : List Char) (p : Piece) : Prop :=
  startOf (endsInName before) c after = some p.symbol ∧ p.offset = String.utf8Len before

theorem mem_pieces_iff {before cs : List Char} {r : List Char × List Piece}
    (h : scanFrom (endsInName before) (String.utf8Len before) cs = .ok r) (p : Piece) :
    p ∈ r.2 ↔ ∃ mid c after, cs = mid ++ c :: after ∧ Starts (before ++ mid) c after p := by
  induction cs generalizing before r with
  | nil =>
    cases h
    simp
  | cons c rest ih =>
    by_cases hc : Misplaced (endsInName before) c
    · rw [scanFrom_misplaced hc] at h
      cases h
    · rw [scanFrom_placed hc] at h
      obtain ⟨r, hr, rfl⟩ := map_ok h
      have hhere : p ∈ (startOf (endsInName before) c rest).toList.map
          (⟨·, String.utf8Len before⟩) ↔ Starts before c rest p := by
        cases p
        simp [Starts, eq_comm]
      rw [pieces_readBefore hr, List.mem_append, hhere]
      rw [utf8Len_concat, ← endsInName_append before c] at hr
      rw [ih hr]
      constructor
      · rintro (hp | ⟨mid, d, after, rfl, hp⟩)
        · exact ⟨[], c, rest, rfl, by rwa [List.append_nil]⟩
        · exact ⟨c :: mid, d, after, rfl, by rwa [List.append_cons]⟩
      · rintro ⟨mid, d, after, hsplit, hp⟩
        cases mid with
        | nil =>
          cases hsplit
          exact .inl (by rwa [List.append_nil] at hp)
        | cons e mid =>
          cases hsplit
          exact .inr ⟨mid, d, after, rfl, by rwa [List.append_cons] at hp⟩

theorem startOf_eq_name_iff {inName : Bool} {c : Char} {after : List Char} {n : String} :
    startOf inName c after = some (.name n) ↔
      isWordChar c = true ∧ inName = false ∧ n.toList = c :: after.takeWhile isWordChar := by
  unfold startOf
  cases isWordChar c with
  | false => simp [punctuation?_ne_name]
  | true =>
    cases inName with
    | true => simp
    | false => simp [String.ext_iff, eq_comm]

theorem text_eq_singleton_iff {c : Char} {s : Symbol} (hs : ∀ n, s ≠ .name n) :
    s.text = [c] ↔ punctuation? c = some s := by
  constructor
  · intro h
    cases s with
    | name n => exact absurd rfl (hs n)
    | dot | opening | closing =>
      obtain rfl := List.singleton_inj.mp h
      rfl
  · intro h
    unfold punctuation? at h
    split at h
    · cases h
      exact congrArg ([·]) (Eq.symm ‹c = '.'›)
    split at h
    · cases h
      exact congrArg ([·]) (Eq.symm ‹c = '<'›)
    split at h
    · cases h
      exact congrArg ([·]) (Eq.symm ‹c = '>'›)
    · cases h

theorem startOf_eq_punctuation_iff {inName : Bool} {c : Char} {after : List Char} {s : Symbol}
    (hs : ∀ n, s ≠ .name n) : startOf inName c after = some s ↔ s.text = [c] := by
  rw [text_eq_singleton_iff hs]
  unfold startOf
  cases hc : isWordChar c with
  | false => exact Iff.rfl
  | true =>
    rw [punctuation?_of_isWordChar hc]
    cases inName with
    | true => exact Iff.rfl
    | false => simpa using (hs _).symm

/-! ## Pieces and the blanks between them -/

/-- The offset of the first byte after the piece. -/
def stop (p : Piece) : Nat := p.offset + String.utf8Len p.symbol.text

/-- The text, which starts at the offset, is blank but for the pieces, and each of them
stands where its own offset says. -/
inductive Covers : Nat → List Char → List Piece → Prop where
  | blank {offset : Nat} {gap : List Char} (hgap : ∀ c ∈ gap, Text.isBlank c = true) :
      Covers offset gap []
  | piece {offset : Nat} {gap rest : List Char} {p : Piece} {pieces : List Piece}
      (hgap : ∀ c ∈ gap, Text.isBlank c = true) (here : p.offset = offset + String.utf8Len gap)
      (next : Covers p.stop rest pieces) : Covers offset (gap ++ p.symbol.text ++ rest) (p :: pieces)

theorem Covers.cons {offset : Nat} {c : Char} {rest : List Char} {pieces : List Piece}
    (h : Covers (offset + c.utf8Size) rest pieces) (hc : Text.isBlank c = true) :
    Covers offset (c :: rest) pieces := by
  cases h with
  | blank hgap => exact .blank (List.forall_mem_cons.mpr ⟨hc, hgap⟩)
  | @piece _ gap rest p _ hgap here next =>
    rw [List.append_assoc, ← List.cons_append, ← List.append_assoc]
    refine .piece (List.forall_mem_cons.mpr ⟨hc, hgap⟩) ?_ next
    rw [here, String.utf8Len_cons]
    omega

theorem Covers.symbol {s : Symbol} {offset : Nat} {text rest : List Char} {pieces : List Piece}
    (hs : s.text = text) (h : Covers (offset + String.utf8Len text) rest pieces) :
    Covers offset (text ++ rest) (⟨s, offset⟩ :: pieces) := by
  subst hs
  have hgap : ∀ c ∈ ([] : List Char), Text.isBlank c = true := fun _ hc => absurd hc List.not_mem_nil
  show Covers offset ([] ++ (⟨s, offset⟩ : Piece).symbol.text ++ rest) _
  exact .piece hgap rfl h

theorem Scans.word_outside {offset : Nat} {cs word : List Char} {pieces : List Piece}
    (h : Scans false offset cs word pieces) : word = [] := by
  cases h <;> rfl

theorem Scans.covers {inName : Bool} {offset : Nat} {cs word : List Char} {pieces : List Piece}
    (h : Scans inName offset cs word pieces) :
    ∃ rest, cs = word ++ rest ∧ Covers (offset + String.utf8Len word) rest pieces := by
  induction h with
  | done => exact ⟨[], rfl, .blank fun _ hc => absurd hc List.not_mem_nil⟩
  | @wordChar offset c _ word _ hc _ ih =>
    obtain ⟨rest, rfl, hcovers⟩ := ih
    refine ⟨rest, rfl, ?_⟩
    rwa [String.utf8Len_cons, Nat.add_comm _ c.utf8Size, ← Nat.add_assoc]
  | blank hc next ih =>
    obtain rfl := next.word_outside
    obtain ⟨rest, rfl, hcovers⟩ := ih
    exact ⟨_, rfl, hcovers.cons hc⟩
  | @punctuation _ offset c s rest _ pieces hc next ih =>
    obtain rfl := next.word_outside
    obtain ⟨_, rfl, hcovers⟩ := ih
    have htext : s.text = [c] :=
      (text_eq_singleton_iff fun n hn => punctuation?_ne_name (hn ▸ hc)).mpr hc
    have hnext : Covers (offset + String.utf8Len [c]) rest pieces := by
      simpa [Nat.add_comm] using hcovers
    exact ⟨_, rfl, Covers.symbol htext hnext⟩
  | @wordStart _ offset c _ word pieces _ _ ih =>
    obtain ⟨rest, rfl, hcovers⟩ := ih
    have htext : (Symbol.name (String.ofList (c :: word))).text = c :: word := String.toList_ofList
    have hnext : Covers (offset + String.utf8Len (c :: word)) rest pieces := by
      rwa [String.utf8Len_cons, Nat.add_comm _ c.utf8Size, ← Nat.add_assoc]
    exact ⟨_, rfl, Covers.symbol htext hnext⟩

/-- The pieces follow each other without overlap. -/
theorem Covers.inOrder {offset : Nat} {cs : List Char} {pieces : List Piece}
    (h : Covers offset cs pieces) :
    (∀ p ∈ pieces, offset ≤ p.offset) ∧ pieces.Pairwise fun p q => p.stop ≤ q.offset := by
  induction h with
  | blank => exact ⟨fun _ hp => absurd hp List.not_mem_nil, .nil⟩
  | @piece offset gap _ p _ _ here _ ih =>
    obtain ⟨hafter, hpairs⟩ := ih
    have hp : offset ≤ p.offset := here ▸ Nat.le_add_right _ _
    refine ⟨List.forall_mem_cons.mpr ⟨hp, fun q hq => ?_⟩, List.pairwise_cons.mpr ⟨hafter, hpairs⟩⟩
    have hstop : p.offset ≤ p.stop := Nat.le_add_right _ _
    exact hp.trans (hstop.trans (hafter q hq))

/-- A piece stands in the text at its offset. -/
theorem Covers.stands {offset : Nat} {cs : List Char} {pieces : List Piece}
    (h : Covers offset cs pieces) {p : Piece} (hp : p ∈ pieces) :
    ∃ before after, cs = before ++ p.symbol.text ++ after ∧
      p.offset = offset + String.utf8Len before := by
  induction h with
  | blank => cases hp
  | @piece offset gap rest q _ _ here _ ih =>
    rcases List.mem_cons.mp hp with rfl | hp
    · exact ⟨gap, rest, rfl, here⟩
    · obtain ⟨before, after, rfl, hoffset⟩ := ih hp
      refine ⟨gap ++ q.symbol.text ++ before, after, by simp only [List.append_assoc], ?_⟩
      rw [hoffset, stop, here, String.utf8Len_append, String.utf8Len_append]
      omega

/-! ## Scans -/

variable {src : String} {pieces : List Piece}

theorem mem_scan_iff (h : scan src = .ok pieces) (p : Piece) :
    p ∈ pieces ↔ ∃ before c after, src.toList = before ++ c :: after ∧
      Starts before c after p := by
  obtain ⟨r, hr, rfl⟩ := map_ok h
  exact @mem_pieces_iff [] _ _ hr p

theorem name_mem_scan_iff (h : scan src = .ok pieces) (n : String) (offset : Nat) :
    ⟨.name n, offset⟩ ∈ pieces ↔ ∃ before after,
      MaximalRun src.toList before n.toList after ∧ offset = String.utf8Len before := by
  rw [mem_scan_iff h]
  constructor
  · rintro ⟨before, c, after, hsplit, hsymbol, hoffset⟩
    obtain ⟨hc, hbefore, hn⟩ := startOf_eq_name_iff.mp hsymbol
    exact ⟨before, _, by rw [hsplit, hn]; exact maximalRun_here hbefore hc after, hoffset⟩
  · rintro ⟨before, after, hrun, hoffset⟩
    obtain ⟨c, rest, hsplit, hc, hn⟩ := hrun.exists_start
    exact ⟨before, c, rest, hsplit, startOf_eq_name_iff.mpr ⟨hc, hrun.left, hn⟩, hoffset⟩

theorem punctuation_mem_scan_iff (h : scan src = .ok pieces) {s : Symbol}
    (hs : ∀ n, s ≠ .name n) (offset : Nat) :
    ⟨s, offset⟩ ∈ pieces ↔ ∃ before after,
      src.toList = before ++ s.text ++ after ∧ offset = String.utf8Len before := by
  rw [mem_scan_iff h]
  constructor
  · rintro ⟨before, c, after, hsplit, hsymbol, hoffset⟩
    refine ⟨before, after, ?_, hoffset⟩
    rw [hsplit, (startOf_eq_punctuation_iff hs).mp hsymbol, ← List.append_cons]
  · rintro ⟨before, after, hsplit, hoffset⟩
    obtain ⟨c, hc⟩ : ∃ c, s.text = [c] := by
      cases s with
      | name n => exact absurd rfl (hs n)
      | dot | opening | closing => exact ⟨_, rfl⟩
    refine ⟨before, c, after, ?_, (startOf_eq_punctuation_iff hs).mpr hc, hoffset⟩
    rw [hsplit, hc, ← List.append_cons]

theorem covers_of_scan (h : scan src = .ok pieces) : Covers 0 src.toList pieces := by
  obtain ⟨⟨word, pieces'⟩, hscan, rfl⟩ := map_ok h
  have hscans := scans_of_ok hscan
  obtain rfl := hscans.word_outside
  obtain ⟨rest, hsplit, hcovers⟩ := hscans.covers
  rwa [hsplit]

theorem stands_of_scan (h : scan src = .ok pieces) {p : Piece} (hp : p ∈ pieces) :
    ∃ before after, src = before ++ String.ofList p.symbol.text ++ after ∧
      p.offset = Text.byteSize before := by
  obtain ⟨before, after, hsplit, hoffset⟩ := (covers_of_scan h).stands hp
  refine ⟨String.ofList before, String.ofList after, ?_, ?_⟩
  · rw [← String.ofList_append, ← String.ofList_append, ← hsplit, String.ofList_toList]
  · rw [Text.byteSize, String.utf8ByteSize_ofList, hoffset, Nat.zero_add]

theorem scan_cases (src : String) :
    (WellPlaced src.toList ∧ ∃ pieces, scan src = .ok pieces) ∨
    ∃ before c, FirstMisplaced src.toList before c ∧
      scan src = .error (.unexpectedChar c (String.utf8Len before)) := by
  rcases scanFrom_cases wellPlaced_nil src.toList with ⟨hwell, r, hr⟩ | ⟨before, c, hfirst, herror⟩
  · exact .inl ⟨hwell, r.2, congrArg (Except.map Prod.snd) hr⟩
  · exact .inr ⟨before, c, hfirst, congrArg (Except.map Prod.snd) herror⟩

theorem scan_ok_iff : (∃ pieces, scan src = .ok pieces) ↔ WellPlaced src.toList := by
  rcases scan_cases src with ⟨hwell, hok⟩ | ⟨before, c, hfirst, herror⟩
  · exact iff_of_true hok hwell
  · refine iff_of_false ?_ hfirst.not_wellPlaced
    rintro ⟨pieces, hok⟩
    rw [herror] at hok
    cases hok

theorem scan_error_iff {e : DescriptorError} : scan src = .error e ↔
    ∃ before c, FirstMisplaced src.toList before c ∧
      e = .unexpectedChar c (String.utf8Len before) := by
  constructor
  · intro h
    rcases scan_cases src with ⟨-, pieces, hok⟩ | ⟨before, c, hfirst, herror⟩
    · rw [hok] at h
      cases h
    · rw [herror] at h
      exact ⟨before, c, hfirst, (Except.error.inj h).symm⟩
  · rintro ⟨before, c, hfirst, rfl⟩
    rcases scan_cases src with ⟨hwell, -⟩ | ⟨before', c', hfirst', herror⟩
    · exact absurd hwell hfirst.not_wellPlaced
    · obtain ⟨rfl, rfl⟩ := hfirst.unique hfirst'
      exact herror

/-- What the scanner makes of any text. -/
theorem scan_cuts (src : String) :
    ((∃ pieces, scan src = .ok pieces) ↔
      (∀ c ∈ src.toList, Allowed c) ∧
        ∀ before run after, MaximalRun src.toList before run after →
          ∀ c, run.head? = some c → c.isDigit = false) ∧
    (∀ pieces, scan src = .ok pieces →
      (∀ n offset, ⟨.name n, offset⟩ ∈ pieces ↔ ∃ before after,
        MaximalRun src.toList before n.toList after ∧ offset = String.utf8Len before) ∧
      (∀ s offset, (∀ n, s ≠ .name n) → (⟨s, offset⟩ ∈ pieces ↔ ∃ before after,
        src.toList = before ++ s.text ++ after ∧ offset = String.utf8Len before)) ∧
      (∀ p ∈ pieces, ∃ before after, src = before ++ String.ofList p.symbol.text ++ after ∧
        p.offset = Text.byteSize before) ∧
      (pieces.Pairwise fun p q => p.stop ≤ q.offset) ∧
      Covers 0 src.toList pieces) ∧
    ∀ e, scan src = .error e ↔ ∃ before c, FirstMisplaced src.toList before c ∧
      e = .unexpectedChar c (String.utf8Len before) := by
  refine ⟨scan_ok_iff.trans wellPlaced_iff, fun pieces h => ?_, fun e => scan_error_iff⟩
  have hcovers := covers_of_scan h
  exact ⟨name_mem_scan_iff h, fun s offset hs => punctuation_mem_scan_iff h hs offset,
    fun p => stands_of_scan h, hcovers.inOrder.2, hcovers⟩

theorem scan_cuts_wideBlank :
    ∃ pieces, scan "List<\u3000Expr>" = .ok pieces ∧ ⟨.name "Expr", 8⟩ ∈ pieces ∧
      ∃ before after, MaximalRun "List<\u3000Expr>".toList before "Expr".toList after ∧
        8 = String.utf8Len before := by
  have hscan : scan "List<\u3000Expr>" =
      .ok [⟨.name "List", 0⟩, ⟨.opening, 4⟩, ⟨.name "Expr", 8⟩, ⟨.closing, 12⟩] := by decide
  have hmem : ⟨.name "Expr", 8⟩ ∈
      [⟨.name "List", 0⟩, ⟨.opening, 4⟩, ⟨.name "Expr", 8⟩, (⟨.closing, 12⟩ : Piece)] := by decide
  obtain ⟨-, hok, -⟩ := scan_cuts "List<\u3000Expr>"
  exact ⟨_, hscan, hmem, ((hok _ hscan).1 "Expr" 8).mp hmem⟩

end Piece
end NodeGen
