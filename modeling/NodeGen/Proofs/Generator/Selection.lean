/-
Selection of families.

Which families a list of names asks for, and in which order, is said by `Chosen`
without a word on how the list is gone through: the families that answer to some
name, by the place where they are first named.  Only one list of families is chosen,
so whatever leaves the names' families and first places alone leaves the files alone.
-/
import Mathlib.Data.List.Sort
import NodeGen.Proofs.Generator.Translation

namespace NodeGen

open GoSource

/-! ## Names of families -/

namespace Family

/-- The built-in family goes by that name, in any case. -/
def AnswersTo (f : Family) (name : String) : Prop :=
  f ∈ builtinFamilies ∧ Text.sameLetters f.name name = true

theorem builtin_distinct : ∀ f ∈ builtinFamilies, ∀ g ∈ builtinFamilies,
    Text.sameLetters f.name g.name = true → f = g := by decide

theorem answersTo_self {f : Family} (h : f ∈ builtinFamilies) : f.AnswersTo f.name :=
  ⟨h, Text.sameLetters_refl f.name⟩

theorem AnswersTo.unique {f g : Family} {name : String} (hf : f.AnswersTo name)
    (hg : g.AnswersTo name) : f = g :=
  builtin_distinct f hf.1 g hg.1 (Text.sameLetters_trans hf.2 (Text.sameLetters_symm hg.2))

theorem builtin?_eq_some_iff {f : Family} {name : String} :
    builtin? name = some f ↔ f.AnswersTo name := by
  have hsome : ∀ {g}, builtin? name = some g → g.AnswersTo name := by
    intro g hg
    rw [builtin?] at hg
    have hname := List.find?_some hg
    exact ⟨List.mem_of_find?_eq_some hg, hname⟩
  constructor
  · exact hsome
  · intro h
    cases hfound : builtin? name with
    | none => exact absurd h.2 (List.find?_eq_none.mp hfound f h.1)
    | some g => rw [(hsome hfound).unique h]

end Family

/-- Some built-in family goes by that name. -/
def KnownFamily (name : String) : Prop := ∃ f : Family, f.AnswersTo name

theorem knownFamily_iff {name : String} : KnownFamily name ↔ isBaseType name = true := by
  rw [isBaseType_iff, KnownFamily]
  exact exists_congr fun f => Family.builtin?_eq_some_iff.symm

instance (name : String) : Decidable (KnownFamily name) :=
  decidable_of_iff _ knownFamily_iff.symm

theorem builtin?_eq_none_iff {name : String} :
    Family.builtin? name = none ↔ ¬ KnownFamily name := by
  rw [Option.eq_none_iff_forall_ne_some]
  constructor
  · rintro h ⟨f, hf⟩
    exact h f (Family.builtin?_eq_some_iff.mpr hf)
  · intro h f hf
    exact h ⟨f, Family.builtin?_eq_some_iff.mp hf⟩

/-! ## Families of names -/

theorem familiesOf_append (names more : List String) :
    familiesOf (names ++ more) =
      (familiesOf names).bind fun fs => (familiesOf more).map (fs ++ ·) := by
  induction names with
  | nil => cases hmore : familiesOf more <;> simp [familiesOf, hmore, Except.bind, Except.map]
  | cons name rest ih =>
    rw [List.cons_append, familiesOf, familiesOf, ih]
    cases Family.builtin? name with
    | none => rfl
    | some f =>
      cases familiesOf rest with
      | error e => rfl
      | ok fs => cases familiesOf more <;> rfl

theorem familiesOf_known {names : List String} (h : ∀ name ∈ names, KnownFamily name) :
    ∃ fs, familiesOf names = .ok fs ∧ List.Forall₂ Family.AnswersTo fs names := by
  induction names with
  | nil => exact ⟨[], rfl, .nil⟩
  | cons name rest ih =>
    obtain ⟨f, hf⟩ := h name List.mem_cons_self
    obtain ⟨fs, hfs, hall⟩ := ih fun other hother => h other (List.mem_cons_of_mem name hother)
    refine ⟨f :: fs, ?_, .cons hf hall⟩
    rw [familiesOf, Family.builtin?_eq_some_iff.mpr hf, hfs]

/-- The name is the first one in the list that no built-in family goes by. -/
def FirstUnknown (names : List String) (x : String) : Prop :=
  ∃ before after, names = before ++ x :: after ∧ (∀ name ∈ before, KnownFamily name) ∧
    ¬ KnownFamily x

theorem FirstUnknown.not_known {names : List String} {x : String} (h : FirstUnknown names x) :
    ¬ ∀ name ∈ names, KnownFamily name := by
  obtain ⟨before, after, rfl, -, hx⟩ := h
  exact fun hall => hx (hall x (List.mem_append_right before List.mem_cons_self))

theorem FirstUnknown.append {names : List String} {x : String} (h : FirstUnknown names x)
    (more : List String) : FirstUnknown (names ++ more) x := by
  obtain ⟨before, after, rfl, hbefore, hx⟩ := h
  exact ⟨before, after ++ more, by rw [List.append_assoc, List.cons_append], hbefore, hx⟩

theorem familiesOf_firstUnknown {names : List String} {x : String} (h : FirstUnknown names x) :
    familiesOf names = .error (.unknownFamily x) := by
  obtain ⟨before, after, rfl, hbefore, hx⟩ := h
  obtain ⟨fs, hfs, -⟩ := familiesOf_known hbefore
  rw [familiesOf_append, hfs, familiesOf, builtin?_eq_none_iff.mpr hx]
  rfl

theorem known_or_firstUnknown (names : List String) :
    (∀ name ∈ names, KnownFamily name) ∨ ∃ x, FirstUnknown names x := by
  induction names with
  | nil => exact .inl fun _ hname => absurd hname List.not_mem_nil
  | cons name rest ih =>
    by_cases hname : KnownFamily name
    · rcases ih with hrest | ⟨x, before, after, rfl, hbefore, hx⟩
      · exact .inl (List.forall_mem_cons.mpr ⟨hname, hrest⟩)
      · exact .inr ⟨x, name :: before, after, rfl, List.forall_mem_cons.mpr ⟨hname, hbefore⟩, hx⟩
    · exact .inr ⟨name, [], rest, rfl, fun _ h => absurd h List.not_mem_nil, hname⟩

/-! ## Chosen families -/

/-- Where the family is first named, or the number of the names if it is not. -/
def firstNamed (names : List String) (f : Family) : Nat :=
  names.findIdx fun name => Text.sameLetters f.name name

/-- The families that the names ask for: each once, by its first name. -/
structure Chosen (names : List String) (fs : List Family) : Prop where
  mem_iff : ∀ f, f ∈ fs ↔ ∃ name ∈ names, f.AnswersTo name
  inOrder : fs.Pairwise fun f g => firstNamed names f < firstNamed names g

namespace Chosen

variable {names more : List String} {fs gs : List Family}

theorem builtin (h : Chosen names fs) : ∀ f ∈ fs, f ∈ builtinFamilies := by
  intro f hf
  obtain ⟨_, -, hanswers⟩ := (h.mem_iff f).mp hf
  exact hanswers.1

theorem translates (h : Chosen names fs) : ∀ f ∈ fs, f.Translates :=
  fun f hf => translates_builtin f (h.builtin f hf)

theorem nodup (h : Chosen names fs) : fs.Nodup :=
  h.inOrder.imp fun hlt heq => Nat.ne_of_lt hlt (congrArg (firstNamed names) heq)

theorem unique (hf : Chosen names fs) (hg : Chosen names gs) : fs = gs := by
  have : Std.Irrefl fun f g : Family => firstNamed names f < firstNamed names g :=
    ⟨fun f => Nat.lt_irrefl (firstNamed names f)⟩
  refine hf.inOrder.eq_of_mem_iff hg.inOrder fun f => ?_
  rw [hf.mem_iff, hg.mem_iff]

/-- Names of families that were named before ask for nothing new. -/
theorem append (h : Chosen names fs)
    (hmore : ∀ name ∈ more, ∃ f ∈ fs, f.AnswersTo name) : Chosen (names ++ more) fs where
  mem_iff f := by
    rw [h.mem_iff]
    constructor
    · rintro ⟨name, hname, hanswers⟩
      exact ⟨name, List.mem_append_left more hname, hanswers⟩
    · rintro ⟨name, hname, hanswers⟩
      rcases List.mem_append.mp hname with hname | hname
      · exact ⟨name, hname, hanswers⟩
      · obtain ⟨g, hg, hgname⟩ := hmore name hname
        rw [hanswers.unique hgname]
        exact (h.mem_iff g).mp hg
  inOrder := by
    -- A family that is chosen is named before the new names begin.
    have hfirst : ∀ f ∈ fs, firstNamed (names ++ more) f = firstNamed names f := by
      intro f hf
      obtain ⟨name, hname, hanswers⟩ := (h.mem_iff f).mp hf
      rw [firstNamed, List.findIdx_append, if_pos (List.findIdx_lt_length_of_exists
        ⟨name, hname, hanswers.2⟩)]
      rfl
    refine h.inOrder.imp_of_mem fun hf hg hlt => ?_
    rwa [hfirst _ hf, hfirst _ hg]

theorem perm {names' : List String} (h : Chosen names fs) (h' : Chosen names' gs)
    (hnames : names.Perm names') : fs.Perm gs := by
  refine (List.perm_ext_iff_of_nodup h.nodup h'.nodup).mpr fun f => ?_
  rw [h.mem_iff, h'.mem_iff]
  exact exists_congr fun name => and_congr_left' hnames.mem_iff

end Chosen

theorem firstNamed_of_answersTo {f : Family} {name : String} (h : f.AnswersTo name)
    (names : List String) : firstNamed (name :: names) f = 0 := by
  rw [firstNamed, List.findIdx_cons, h.2]
  rfl

theorem firstNamed_of_ne {f g : Family} {name : String} (hf : f.AnswersTo name)
    (hg : g ∈ builtinFamilies) (hne : g.name ≠ f.name) (names : List String) :
    firstNamed (name :: names) g = firstNamed names g + 1 := by
  have hno : Text.sameLetters g.name name = false := by
    rw [Bool.eq_false_iff]
    intro hsame
    exact hne (congrArg Family.name (Family.AnswersTo.unique ⟨hg, hsame⟩ hf))
  rw [firstNamed, List.findIdx_cons, hno]
  rfl

theorem Chosen.cons {names : List String} {fs : List Family} {name : String} {f : Family}
    (hf : f.AnswersTo name) (h : Chosen names fs) :
    Chosen (name :: names) (f :: fs.filter (·.name ≠ f.name)) where
  mem_iff g := by
    simp only [List.mem_cons, List.mem_filter, decide_eq_true_eq]
    constructor
    · rintro (rfl | ⟨hg, -⟩)
      · exact ⟨name, .inl rfl, hf⟩
      · obtain ⟨other, hother, hanswers⟩ := (h.mem_iff g).mp hg
        exact ⟨other, .inr hother, hanswers⟩
    · rintro ⟨other, rfl | hother, hanswers⟩
      · exact .inl (hanswers.unique hf)
      · by_cases hname : g.name = f.name
        · have hg : g.AnswersTo f.name := hname ▸ Family.answersTo_self hanswers.1
          exact .inl (hg.unique (Family.answersTo_self hf.1))
        · exact .inr ⟨(h.mem_iff g).mpr ⟨other, hother, hanswers⟩, hname⟩
  inOrder := by
    have hstep : ∀ g ∈ fs.filter (·.name ≠ f.name),
        firstNamed (name :: names) g = firstNamed names g + 1 := by
      intro g hg
      obtain ⟨hmem, hname⟩ := List.mem_filter.mp hg
      exact firstNamed_of_ne hf (h.builtin g hmem) (of_decide_eq_true hname) names
    refine List.pairwise_cons.mpr ⟨?_, ?_⟩
    · intro g hg
      rw [firstNamed_of_answersTo hf, hstep g hg]
      exact Nat.succ_pos _
    · refine (h.inOrder.filter _).imp_of_mem fun hg hk hlt => ?_
      rw [hstep _ hg, hstep _ hk]
      exact Nat.succ_lt_succ hlt

theorem chosen_distinctFamilies {names : List String} {fs : List Family}
    (h : List.Forall₂ Family.AnswersTo fs names) : Chosen names (distinctFamilies fs) := by
  induction h with
  | nil => exact ⟨by simp [distinctFamilies], List.Pairwise.nil⟩
  | cons hf _ ih => exact ih.cons hf

/-! ## Files of the chosen families -/

/-- The file of the family in the configuration. -/
structure FileOf (config : Config) (f : Family) (file : GeneratedFile) : Prop where
  family : file.family = f.name
  path : file.path = Path.join config.outDir (f.name ++ ".go")
  text : (Generation.familyText f config).collect.1 = .ok file.text

/-- Two files of one family whose texts differ at most in their preambles. -/
def SameBody (config config' : Config) (file file' : GeneratedFile) : Prop :=
  file.family = file'.family ∧ ∃ body,
    file.text = withPreamble config.generator config.package body ∧
    file'.text = withPreamble config'.generator config'.package body

namespace Generation

theorem fileOf_generated (config : Config) {f : Family} (h : f.Translates) :
    FileOf config f (generated config f) :=
  ⟨rfl, rfl, congrArg Prod.fst (familyText_gives h config).collect⟩

theorem FileOf.eq_generated {config : Config} {f : Family} {file : GeneratedFile}
    (hfile : FileOf config f file) (h : f.Translates) : file = generated config f := by
  have hgenerated := fileOf_generated config h
  have htext : file.text = (generated config f).text :=
    Except.ok.inj (hfile.text.symm.trans hgenerated.text)
  cases file
  rw [GeneratedFile.mk.injEq]
  exact ⟨hfile.family, hfile.path, htext⟩

theorem forall₂_fileOf_iff (config : Config) {fs : List Family} {files : List GeneratedFile}
    (h : ∀ f ∈ fs, f.Translates) :
    List.Forall₂ (FileOf config) fs files ↔ files = fs.map (generated config) := by
  constructor
  · intro hfiles
    induction hfiles with
    | nil => rfl
    | cons hfile _ ih =>
      rw [List.map_cons, ← FileOf.eq_generated hfile (h _ List.mem_cons_self),
        ← ih fun g hg => h g (List.mem_cons_of_mem _ hg)]
  · rintro rfl
    rw [List.forall₂_map_right_iff, List.forall₂_same]
    exact fun f hf => fileOf_generated config (h f hf)

theorem sameBody_generated (config config' : Config) (fs : List Family) :
    List.Forall₂ (SameBody config config') (fs.map (generated config))
      (fs.map (generated config')) := by
  rw [List.forall₂_map_left_iff, List.forall₂_map_right_iff, List.forall₂_same]
  exact fun f _ => ⟨rfl, renderAll f.declarations, rfl, rfl⟩

theorem named_of_known {names : List String} (h : ∀ name ∈ names, KnownFamily name) :
    ∃ fs, Chosen names fs ∧ ∀ config, named names config = files config fs := by
  obtain ⟨fs, hfs, hall⟩ := familiesOf_known h
  refine ⟨distinctFamilies fs, chosen_distinctFamilies hall, fun config => ?_⟩
  rw [named, hfs]

theorem named_of_firstUnknown {names : List String} {x : String} (h : FirstUnknown names x)
    (config : Config) : named names config = fail (.unknownFamily x) := by
  rw [named, familiesOf_firstUnknown h]

theorem named_result_of_known {names : List String} (h : ∀ name ∈ names, KnownFamily name) :
    ∃ fs, Chosen names fs ∧
      ∀ config, (named names config).collect.1 = .ok (fs.map (generated config)) := by
  obtain ⟨fs, hfs, hnamed⟩ := named_of_known h
  refine ⟨fs, hfs, fun config => ?_⟩
  rw [hnamed]
  exact congrArg Prod.fst (files_gives config hfs.translates).collect

theorem named_result_of_firstUnknown {names : List String} {x : String}
    (h : FirstUnknown names x) (config : Config) :
    (named names config).collect.1 = .error (.unknownFamily x) := by
  rw [named_of_firstUnknown h]
  rfl

theorem named_eq_ok_iff {names : List String} {config : Config} {files : List GeneratedFile} :
    (named names config).collect.1 = .ok files ↔ (∀ name ∈ names, KnownFamily name) ∧
      ∃ fs, Chosen names fs ∧ List.Forall₂ (FileOf config) fs files := by
  rcases known_or_firstUnknown names with hknown | ⟨x, hx⟩
  · obtain ⟨fs, hfs, hresult⟩ := named_result_of_known hknown
    rw [hresult, Except.ok.injEq]
    constructor
    · intro hfiles
      exact ⟨hknown, fs, hfs, (forall₂_fileOf_iff config hfs.translates).mpr hfiles.symm⟩
    · rintro ⟨-, gs, hgs, hfiles⟩
      rw [(forall₂_fileOf_iff config hgs.translates).mp hfiles, hgs.unique hfs]
  · rw [named_result_of_firstUnknown hx]
    constructor
    · intro h
      cases h
    · rintro ⟨hknown, -⟩
      exact absurd hknown hx.not_known

theorem named_eq_error_iff {names : List String} {config : Config} {e : GenerateError} :
    (named names config).collect.1 = .error e ↔
      ∃ x, FirstUnknown names x ∧ e = .unknownFamily x := by
  constructor
  · intro h
    rcases known_or_firstUnknown names with hknown | ⟨x, hx⟩
    · obtain ⟨fs, -, hresult⟩ := named_result_of_known hknown
      rw [hresult] at h
      cases h
    · rw [named_result_of_firstUnknown hx] at h
      exact ⟨x, hx, (Except.error.inj h).symm⟩
  · rintro ⟨x, hx, rfl⟩
    exact named_result_of_firstUnknown hx config

theorem named_append {names more : List String} (config : Config)
    (h : ∀ name ∈ more, ∃ f : Family, f.AnswersTo name ∧ ∃ earlier ∈ names, f.AnswersTo earlier) :
    named (names ++ more) config = named names config := by
  rcases known_or_firstUnknown names with hknown | ⟨x, hx⟩
  · have hall : ∀ name ∈ names ++ more, KnownFamily name := by
      refine List.forall_mem_append.mpr ⟨hknown, fun name hname => ?_⟩
      obtain ⟨f, hf, -⟩ := h name hname
      exact ⟨f, hf⟩
    obtain ⟨fs, hfs, hnamed⟩ := named_of_known hknown
    obtain ⟨gs, hgs, hboth⟩ := named_of_known hall
    have hsame : Chosen (names ++ more) fs := by
      refine hfs.append fun name hname => ?_
      obtain ⟨f, hf, earlier⟩ := h name hname
      exact ⟨f, (hfs.mem_iff f).mpr earlier, hf⟩
    rw [hboth, hnamed, hgs.unique hsame]
  · rw [named_of_firstUnknown hx, named_of_firstUnknown (hx.append more)]

theorem all_eq_named (config : Config) : all config = named ["expr", "stmt"] config := by
  have hfamilies : familiesOf ["expr", "stmt"] = .ok builtinFamilies := rfl
  have hdistinct : distinctFamilies builtinFamilies = builtinFamilies := by decide
  rw [named, hfamilies]
  show files config builtinFamilies = files config (distinctFamilies builtinFamilies)
  rw [hdistinct]

theorem named_perm {names others : List String} (config : Config) (h : names.Perm others) :
    (∃ files files', (named names config).collect.1 = .ok files ∧
      (named others config).collect.1 = .ok files' ∧ files.Perm files') ∨
    ∃ e e', (named names config).collect.1 = .error e ∧
      (named others config).collect.1 = .error e' := by
  have hknown : (∀ name ∈ names, KnownFamily name) ↔ ∀ name ∈ others, KnownFamily name :=
    forall_congr' fun name => imp_congr_left h.mem_iff
  rcases known_or_firstUnknown names with hnames | ⟨x, hx⟩
  · obtain ⟨fs, hfs, hresult⟩ := named_result_of_known hnames
    obtain ⟨gs, hgs, hresult'⟩ := named_result_of_known (hknown.mp hnames)
    exact .inl ⟨_, _, hresult config, hresult' config, (hfs.perm hgs h).map _⟩
  · rcases known_or_firstUnknown others with hothers | ⟨y, hy⟩
    · exact absurd (hknown.mpr hothers) hx.not_known
    · exact .inr ⟨_, _, named_result_of_firstUnknown hx config,
        named_result_of_firstUnknown hy config⟩

theorem named_bodies (names : List String) (config config' : Config) :
    (∃ files files', (named names config).collect.1 = .ok files ∧
      (named names config').collect.1 = .ok files' ∧
      List.Forall₂ (SameBody config config') files files') ∨
    ∃ e, (named names config).collect.1 = .error e ∧
      (named names config').collect.1 = .error e := by
  rcases known_or_firstUnknown names with hknown | ⟨x, hx⟩
  · obtain ⟨fs, -, hresult⟩ := named_result_of_known hknown
    exact .inl ⟨_, _, hresult config, hresult config', sameBody_generated config config' fs⟩
  · exact .inr ⟨_, named_result_of_firstUnknown hx config,
      named_result_of_firstUnknown hx config'⟩

/-- What the files of a list of names are, and what they do not depend on. -/
theorem named_selects (names : List String) (config : Config) :
    ((∃ files, (named names config).collect.1 = .ok files) ↔
      ∀ name ∈ names, KnownFamily name) ∧
    (∀ e, (named names config).collect.1 = .error e ↔
      ∃ x, FirstUnknown names x ∧ e = .unknownFamily x) ∧
    (∀ files, (named names config).collect.1 = .ok files ↔
      (∀ name ∈ names, KnownFamily name) ∧
        ∃ fs, Chosen names fs ∧ List.Forall₂ (FileOf config) fs files) ∧
    (∀ more, (∀ name ∈ more, ∃ f : Family, f.AnswersTo name ∧
        ∃ earlier ∈ names, f.AnswersTo earlier) →
      named (names ++ more) config = named names config) ∧
    all config = named ["expr", "stmt"] config ∧
    (∀ others, names.Perm others →
      (∃ files files', (named names config).collect.1 = .ok files ∧
        (named others config).collect.1 = .ok files' ∧ files.Perm files') ∨
      ∃ e e', (named names config).collect.1 = .error e ∧
        (named others config).collect.1 = .error e') ∧
    ∀ config',
      (∃ files files', (named names config).collect.1 = .ok files ∧
        (named names config').collect.1 = .ok files' ∧
        List.Forall₂ (SameBody config config') files files') ∨
      ∃ e, (named names config).collect.1 = .error e ∧
        (named names config').collect.1 = .error e := by
  refine ⟨?_, fun e => named_eq_error_iff, fun files => named_eq_ok_iff,
    fun more => named_append config, all_eq_named config, fun others => named_perm config,
    named_bodies names config⟩
  constructor
  · rintro ⟨files, hfiles⟩
    exact (named_eq_ok_iff.mp hfiles).1
  · intro hknown
    obtain ⟨fs, -, hresult⟩ := named_result_of_known hknown
    exact ⟨_, hresult config⟩

/-- The second family of the schema comes first where it is named first. -/
theorem named_mixedCase :
    ∃ files, (named ["STMT", "expr", "Stmt"] (Config.default "/work")).collect.1 = .ok files ∧
      List.Forall₂ (FileOf (Config.default "/work")) [stmtFamily, exprFamily] files := by
  obtain ⟨hok, -, hfiles, -⟩ := named_selects ["STMT", "expr", "Stmt"] (Config.default "/work")
  have hanswers : List.Forall₂ Family.AnswersTo [stmtFamily, exprFamily, stmtFamily]
      ["STMT", "expr", "Stmt"] :=
    .cons ⟨by decide, by decide⟩ (.cons ⟨by decide, by decide⟩
      (.cons ⟨by decide, by decide⟩ .nil))
  have hchosen : Chosen ["STMT", "expr", "Stmt"] [stmtFamily, exprFamily] := by
    have hdistinct : distinctFamilies [stmtFamily, exprFamily, stmtFamily] =
        [stmtFamily, exprFamily] := by decide
    exact hdistinct ▸ chosen_distinctFamilies hanswers
  obtain ⟨files, hresult⟩ := hok.mpr (by decide)
  obtain ⟨-, fs, hfs, hall⟩ := (hfiles files).mp hresult
  exact ⟨files, hresult, hfs.unique hchosen ▸ hall⟩

end Generation
end NodeGen
