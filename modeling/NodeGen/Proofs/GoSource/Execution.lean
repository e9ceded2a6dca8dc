/-
Running constructors.

A constructor runs in one scope.  Its parameters are bound there, and so is its new
variable, which hides a parameter of that name.  A body that uses a name for what it does
not stand for has no result.

The body of interest allocates a struct, assigns each field from the variable of its name
and returns the struct (`buildBody`).  It builds the struct from its arguments exactly if
the names of the fields are free (`builds_iff`).
-/
import Mathlib.Data.List.Perm.Basic
import NodeGen.GoSource.Declaration

namespace NodeGen
namespace GoSource

/-- The name that can be declared but not used. -/
def blankName : String := "_"

/-- The function that allocates, a name like others that a declaration can hide. -/
def allocatorName : String := "new"

/-! ## Memory -/

/-- Pointers lead to structs.  Other values are as their caller made them. -/
inductive Value (α : Type) where
  | given (a : α)
  | pointer (address : Nat)
  deriving DecidableEq, Repr

/-- A struct and what was assigned to its fields since it was allocated, in order. -/
structure Struct (α : Type) where
  type : String
  fields : List String
  assigned : List (String × Value α)
  deriving DecidableEq, Repr

/-- The variables in scope, the latest one first. -/
abbrev Scope (α : Type) := List (String × Value α)

structure Memory (α : Type) where
  scope : Scope α
  structs : List (Struct α)
  deriving DecidableEq, Repr

variable {α : Type}

/-- What a field holds, which is what was assigned last. -/
def Struct.value? (s : Struct α) (field : String) : Option (Value α) :=
  s.assigned.reverse.lookup field

/-- The struct after more assignments. -/
def Struct.assign (s : Struct α) (entries : List (String × Value α)) : Struct α :=
  { s with assigned := s.assigned ++ entries }

def Scope.value? (scope : Scope α) (name : String) : Option (Value α) :=
  if name = blankName then none else scope.lookup name

/-! ## Declared names -/

/-- The name that a declaration adds to its package.  Methods belong to their types. -/
def Declaration.name? : Declaration → Option String
  | interface name _ => some name
  | struct name _ => some name
  | function signature _ => some signature.name
  | method _ _ _ => none

def Declaration.structFields? (type : String) : Declaration → Option (List String)
  | struct name fields => if name = type then some (fields.map Binding.name) else none
  | _ => none

/-- The fields of the struct of that name. -/
def structFields? (ds : List Declaration) (type : String) : Option (List String) :=
  ds.findSome? (Declaration.structFields? type)

/-- In `new(type)` the type has a name, and no declaration or variable hides what the two
names stand for. -/
def Allocates (ds : List Declaration) (type : String) (scope : Scope α) : Prop :=
  (type ≠ blankName ∧ allocatorName ∉ ds.filterMap Declaration.name?) ∧
    scope.value? allocatorName = none ∧ scope.value? type = none

instance (ds : List Declaration) (type : String) (scope : Scope α) :
    Decidable (Allocates ds type scope) :=
  inferInstanceAs (Decidable ((_ ∧ _) ∧ _ ∧ _))

/-! ## Statements -/

namespace Memory

/-- The names are looked up before the new variable hides any of them. -/
def allocate (ds : List Declaration) (name type : String) (m : Memory α) : Option (Memory α) :=
  if Allocates ds type m.scope then
    (structFields? ds type).map fun fields =>
      ⟨(name, .pointer m.structs.length) :: m.scope, m.structs ++ [⟨type, fields, []⟩]⟩
  else none

def assign (record field value : String) (m : Memory α) : Option (Memory α) := do
  let .pointer address ← m.scope.value? record | none
  let s ← m.structs[address]?
  let a ← m.scope.value? value
  if field ∈ s.fields ∧ field ≠ blankName then
    some { m with structs := m.structs.set address (s.assign [(field, a)]) }
  else none

end Memory

/-- What the statements return, with all structs at that time.  They call no methods. -/
def run (ds : List Declaration) : List Statement → Memory α → Option (Value α × List (Struct α))
  | [], _ => none
  | .allocate name type :: rest, m => (m.allocate ds name type).bind (run ds rest)
  | .assign record field value :: rest, m => (m.assign record field value).bind (run ds rest)
  | .give value :: _, m => (m.scope.value? value).map fun a => (a, m.structs)
  | .giveCall _ _ _ :: _, _ => none

/-- The scope in which a body starts. -/
def bindArguments (parameters : List Binding) (arguments : List (Value α)) : Scope α :=
  (parameters.map Binding.name).zip arguments

def call (ds : List Declaration) (parameters : List Binding) (body : List Statement)
    (structs : List (Struct α)) (arguments : List (Value α)) :
    Option (Value α × List (Struct α)) :=
  if arguments.length = parameters.length then
    run ds body ⟨bindArguments parameters arguments, structs⟩
  else none

/-! ## Building a struct -/

/-- The fields are the bound names, each was assigned once, and each holds what its name is
bound to. -/
structure Struct.Holds (s : Struct α) (type : String) (bound : Scope α) : Prop where
  type : s.type = type
  fields : s.fields = bound.map Prod.fst
  assigned : s.assigned.map Prod.fst = s.fields
  values : ∀ e ∈ bound, s.value? e.1 = some e.2

/-- A call returns a pointer to a new struct that holds the arguments, and leaves the other
structs as they were. -/
def Builds (ds : List Declaration) (type : String) (parameters : List Binding)
    (body : List Statement) (structs : List (Struct α)) (arguments : List (Value α)) : Prop :=
  ∃ s : Struct α,
    call ds parameters body structs arguments = some (.pointer structs.length, structs ++ [s]) ∧
      s.Holds type (bindArguments parameters arguments)

/-- The body that assigns each field from the variable of its name. -/
def buildBody (record type : String) (names : List String) : List Statement :=
  .allocate record type :: names.map (fun n => .assign record n n) ++ [.give record]

/-! ## Scopes -/

/-- Every entry is a name with the value that it has in scope. -/
def Scope.Gives (scope : Scope α) (entries : List (String × Value α)) : Prop :=
  ∀ e ∈ entries, scope.value? e.1 = some e.2

theorem Scope.ne_blank {scope : Scope α} {name : String} {a : Value α}
    (h : scope.value? name = some a) : name ≠ blankName := by
  rintro rfl
  cases h

theorem Scope.value?_of_ne (scope : Scope α) {name : String} (h : name ≠ blankName) :
    scope.value? name = scope.lookup name :=
  if_neg h

theorem Scope.value?_cons_self {scope : Scope α} {name : String} (h : name ≠ blankName)
    (a : Value α) : Scope.value? ((name, a) :: scope) name = some a := by
  rw [Scope.value?_of_ne _ h, List.lookup_cons_self]

theorem Scope.value?_cons_of_ne {scope : Scope α} {name other : String} (h : name ≠ other)
    (a : Value α) : Scope.value? ((other, a) :: scope) name = scope.value? name := by
  have hne : (name == other) = false := beq_eq_false_iff_ne.mpr h
  rw [Scope.value?, Scope.value?, List.lookup_cons, hne]

theorem Scope.value?_eq_none_iff {scope : Scope α} {name : String} (h : name ≠ blankName) :
    scope.value? name = none ↔ name ∉ scope.map Prod.fst := by
  rw [Scope.value?_of_ne _ h, List.lookup_eq_none_iff, ← List.forall_mem_ne, List.forall_mem_map]
  simp only [bne_iff_ne]

/-- A name that is bound once has the value that it is bound to. -/
theorem lookup_of_mem {entries : List (String × Value α)} (hkeys : (entries.map Prod.fst).Nodup)
    {e : String × Value α} (he : e ∈ entries) : entries.lookup e.1 = some e.2 := by
  obtain ⟨before, after, rfl⟩ := List.append_of_mem he
  rw [List.map_append, List.nodup_append] at hkeys
  refine List.lookup_eq_some_iff.mpr ⟨before, after, rfl, fun p hp => ?_⟩
  have hne := hkeys.2.2 p.1 (List.mem_map_of_mem hp) e.1 List.mem_cons_self
  exact bne_iff_ne.mpr hne.symm

/-! ## Runs -/

theorem Struct.assign_assign (s : Struct α) (a b : List (String × Value α)) :
    (s.assign a).assign b = s.assign (a ++ b) := by
  rw [assign, assign, assign, List.append_assoc]

/-- Assigned once, a field holds its one value. -/
theorem Struct.value?_of_mem {s : Struct α} (hkeys : (s.assigned.map Prod.fst).Nodup)
    {e : String × Value α} (he : e ∈ s.assigned) : s.value? e.1 = some e.2 := by
  refine lookup_of_mem ?_ (List.mem_reverse.mpr he)
  rw [List.map_reverse]
  exact (List.reverse_perm _).nodup_iff.mpr hkeys

/-- A field of the last struct takes the value of the variable of its name. -/
theorem assign_last {scope : Scope α} {record field : String} {before : List (Struct α)}
    {s : Struct α} (hrecord : scope.value? record = some (.pointer before.length))
    (hfield : field ∈ s.fields) :
    Memory.assign record field field ⟨scope, before ++ [s]⟩ =
      (scope.value? field).map fun a => ⟨scope, before ++ [s.assign [(field, a)]]⟩ := by
  cases hvalue : scope.value? field with
  | none => simp [Memory.assign, hrecord, hvalue]
  | some a =>
    have hname := Scope.ne_blank hvalue
    simp [Memory.assign, hrecord, hvalue, hfield, hname]

/-- Assignments to the last struct run exactly if all of the variables have values.  The
induction is on the fields that are still to be assigned. -/
theorem run_assigns_iff (ds : List Declaration) {scope : Scope α} {record : String}
    {before : List (Struct α)} (hrecord : scope.value? record = some (.pointer before.length))
    (rest : List Statement) {names : List String} {s : Struct α}
    (hfields : ∀ n ∈ names, n ∈ s.fields) {result : Value α × List (Struct α)} :
    run ds (names.map (fun n => .assign record n n) ++ rest) ⟨scope, before ++ [s]⟩ = some result ↔
      ∃ entries, entries.map Prod.fst = names ∧ scope.Gives entries ∧
        run ds rest ⟨scope, before ++ [s.assign entries]⟩ = some result := by
  induction names generalizing s with
  | nil =>
    have hnone : s.assign [] = s := by rw [Struct.assign, List.append_nil]
    constructor
    · intro h
      refine ⟨[], rfl, fun e he => absurd he List.not_mem_nil, ?_⟩
      rwa [hnone]
    · rintro ⟨entries, hnames, -, hrest⟩
      rwa [List.map_eq_nil_iff.mp hnames, hnone] at hrest
  | cons n others ih =>
    obtain ⟨hn, hothers⟩ := List.forall_mem_cons.mp hfields
    have hnext (a : Value α) := ih (s := s.assign [(n, a)]) hothers
    rw [List.map_cons, List.cons_append, run, assign_last hrecord hn]
    constructor
    · intro h
      obtain ⟨m, hm, hrun⟩ := Option.bind_eq_some_iff.mp h
      obtain ⟨a, ha, rfl⟩ := Option.map_eq_some_iff.mp hm
      obtain ⟨entries, hnames, hgives, hrest⟩ := (hnext a).mp hrun
      rw [Struct.assign_assign] at hrest
      exact ⟨(n, a) :: entries, congrArg (n :: ·) hnames,
        List.forall_mem_cons.mpr ⟨ha, hgives⟩, hrest⟩
    · rintro ⟨all, hnames, hgives, hrest⟩
      obtain ⟨⟨_, a⟩, entries, rfl, rfl, hothers⟩ := List.map_eq_cons_iff.mp hnames
      obtain ⟨ha, hgives⟩ := List.forall_mem_cons.mp hgives
      rw [ha, Option.map_some, Option.bind_some, hnext]
      refine ⟨entries, hothers, hgives, ?_⟩
      rwa [Struct.assign_assign]

theorem allocate_eq_some_iff {ds : List Declaration} {name type : String} {fields : List String}
    (hstruct : structFields? ds type = some fields) {m m' : Memory α} :
    m.allocate ds name type = some m' ↔ Allocates ds type m.scope ∧
      m' = ⟨(name, .pointer m.structs.length) :: m.scope, m.structs ++ [⟨type, fields, []⟩]⟩ := by
  rw [Memory.allocate, hstruct, Option.map_some, Option.ite_none_right_eq_some, Option.some_inj,
    eq_comm]

/-- Without a struct to assign to, the body of assignments has no result. -/
theorem run_assigns_unbound (ds : List Declaration) {record : String} {m : Memory α}
    (hrecord : m.scope.value? record = none) (names : List String) :
    run ds (names.map (fun n => .assign record n n) ++ [.give record]) m = none := by
  cases names with
  | nil => rw [List.map_nil, List.nil_append, run, hrecord, Option.map_none]
  | cons n others =>
    have hassign : m.assign record n n = none := by simp [Memory.assign, hrecord]
    rw [List.map_cons, List.cons_append, run, hassign, Option.bind_none]

/-- The body runs exactly if its names mean what they should and all of the variables have
values, in the scope with the new variable. -/
theorem run_buildBody_iff {ds : List Declaration} {record type : String} {names : List String}
    (hstruct : structFields? ds type = some names) {scope : Scope α} {structs : List (Struct α)}
    {result : Value α × List (Struct α)} :
    run ds (buildBody record type names) ⟨scope, structs⟩ = some result ↔
      Allocates ds type scope ∧ record ≠ blankName ∧
      ∃ entries, entries.map Prod.fst = names ∧
        Scope.Gives ((record, .pointer structs.length) :: scope) entries ∧
        result = (.pointer structs.length, structs ++ [⟨type, names, entries⟩]) := by
  let inner : Scope α := (record, .pointer structs.length) :: scope
  let zero : Struct α := ⟨type, names, []⟩
  have hrest (hrecord : record ≠ blankName) :
      run ds (names.map (fun n => .assign record n n) ++ [.give record])
        ⟨inner, structs ++ [zero]⟩ = some result ↔
      ∃ entries, entries.map Prod.fst = names ∧ inner.Gives entries ∧
        result = (.pointer structs.length, structs ++ [⟨type, names, entries⟩]) := by
    have hpointer : inner.value? record = some (.pointer structs.length) :=
      Scope.value?_cons_self hrecord _
    rw [run_assigns_iff ds hpointer [.give record] (s := zero) fun _ hn => hn]
    simp only [run, hpointer, Option.map_some, Option.some_inj, eq_comm]
    rfl
  rw [buildBody, List.cons_append, run, Option.bind_eq_some_iff]
  constructor
  · rintro ⟨m, hm, hrun⟩
    obtain ⟨hallocates, rfl⟩ := (allocate_eq_some_iff hstruct).mp hm
    have hrecord : record ≠ blankName := by
      rintro rfl
      rw [run_assigns_unbound ds rfl names] at hrun
      cases hrun
    exact ⟨hallocates, hrecord, (hrest hrecord).mp hrun⟩
  · rintro ⟨hallocates, hrecord, hentries⟩
    exact ⟨_, (allocate_eq_some_iff hstruct).mpr ⟨hallocates, rfl⟩, (hrest hrecord).mpr hentries⟩

/-! ## Building from arguments -/

theorem allocates_iff {ds : List Declaration} {type : String} {scope : Scope α} :
    Allocates ds type scope ↔
      (type ≠ blankName ∧ allocatorName ∉ ds.filterMap Declaration.name?) ∧
        allocatorName ∉ scope.map Prod.fst ∧ type ∉ scope.map Prod.fst := by
  refine and_congr_right fun h => ?_
  have hallocator : allocatorName ≠ blankName := by decide
  rw [Scope.value?_eq_none_iff hallocator, Scope.value?_eq_none_iff h.1]

/-- Once a new variable is in scope, the bound names still give what they are bound to
exactly if none is blank or the name of the variable. -/
theorem exists_holds_iff {bound : Scope α} (hdistinct : (bound.map Prod.fst).Nodup)
    {record : String} (hrecord : record ≠ blankName) {a : Value α}
    (hfresh : a ∉ bound.map Prod.snd) (type : String) :
    (∃ entries, Scope.Gives ((record, a) :: bound) entries ∧
      (Struct.mk type (bound.map Prod.fst) entries).Holds type bound) ↔
      record ∉ bound.map Prod.fst ∧ blankName ∉ bound.map Prod.fst := by
  constructor
  · rintro ⟨entries, hgives, hholds⟩
    have hkeys : entries.map Prod.fst = bound.map Prod.fst := hholds.assigned
    refine ⟨fun hmem => ?_, fun hmem => ?_⟩
    · -- The field of that name was set to the value of the variable, which is no argument.
      obtain ⟨e, he, rfl⟩ := List.mem_map.mp hmem
      obtain ⟨e', he', hname⟩ := List.mem_map.mp (hkeys ▸ hmem)
      have ha : e'.2 = a := by
        have hvalue := hgives e' he'
        rw [hname, Scope.value?_cons_self hrecord] at hvalue
        exact (Option.some.inj hvalue).symm
      have hvalue := Struct.value?_of_mem (s := ⟨type, bound.map Prod.fst, entries⟩)
        (hkeys ▸ hdistinct) he'
      rw [hname, hholds.values e he, ha] at hvalue
      have hargument : e.2 = a := Option.some.inj hvalue
      exact hfresh (hargument ▸ List.mem_map_of_mem he)
    · obtain ⟨e, he, hname⟩ := List.mem_map.mp (hkeys ▸ hmem)
      exact Scope.ne_blank (hgives e he) hname
  · rintro ⟨hvariable, hblank⟩
    refine ⟨bound, fun e he => ?_, rfl, rfl, rfl, fun e he => Struct.value?_of_mem hdistinct he⟩
    have hkey := List.mem_map_of_mem (f := Prod.fst) he
    have hne : e.1 ≠ record := fun h => hvariable (h ▸ hkey)
    have hname : e.1 ≠ blankName := fun h => hblank (h ▸ hkey)
    rw [Scope.value?_cons_of_ne hne, Scope.value?_of_ne _ hname]
    exact lookup_of_mem hdistinct he

/-- The body builds the struct from its arguments exactly if its names are not blank, the
allocator is not declared anew, and no field goes by a name that the body uses for something
else.  No argument may point to the new struct, which is not there yet. -/
theorem builds_iff {ds : List Declaration} {record type : String} {parameters : List Binding}
    (hstruct : structFields? ds type = some (parameters.map Binding.name))
    (hdistinct : (parameters.map Binding.name).Nodup) {structs : List (Struct α)}
    {arguments : List (Value α)} (hlength : arguments.length = parameters.length)
    (hfresh : .pointer structs.length ∉ arguments) :
    Builds ds type parameters (buildBody record type (parameters.map Binding.name)) structs
        arguments ↔
      (type ≠ blankName ∧ allocatorName ∉ ds.filterMap Declaration.name?) ∧ record ≠ blankName ∧
        (parameters.map Binding.name).Disjoint [record, type, allocatorName, blankName] := by
  have hlengths : (parameters.map Binding.name).length = arguments.length := by
    rw [List.length_map, hlength]
  have hkeys : (bindArguments parameters arguments).map Prod.fst = parameters.map Binding.name :=
    List.map_fst_zip (Nat.le_of_eq hlengths)
  have hvalues : (bindArguments parameters arguments).map Prod.snd = arguments :=
    List.map_snd_zip (Nat.le_of_eq hlengths.symm)
  rw [Builds, call, if_pos hlength]
  rw [← hkeys] at hstruct hdistinct ⊢
  rw [← hvalues] at hfresh
  generalize bindArguments parameters arguments = bound at *
  simp only [List.disjoint_cons_right, List.disjoint_nil_right, and_true]
  constructor
  · rintro ⟨s, hcall, hholds⟩
    obtain ⟨hallocates, hrecord, entries, -, hgives, hresult⟩ :=
      (run_buildBody_iff hstruct).mp hcall
    obtain rfl : s = ⟨type, bound.map Prod.fst, entries⟩ := by simpa using hresult
    obtain ⟨hnames, hallocator, htype⟩ := allocates_iff.mp hallocates
    obtain ⟨hvariable, hblank⟩ :=
      (exists_holds_iff hdistinct hrecord hfresh type).mp ⟨entries, hgives, hholds⟩
    exact ⟨hnames, hrecord, hvariable, htype, hallocator, hblank⟩
  · rintro ⟨hnames, hrecord, hvariable, htype, hallocator, hblank⟩
    have hallocates : Allocates ds type bound := allocates_iff.mpr ⟨hnames, hallocator, htype⟩
    obtain ⟨entries, hgives, hholds⟩ :=
      (exists_holds_iff hdistinct hrecord hfresh type).mpr ⟨hvariable, hblank⟩
    refine ⟨_, (run_buildBody_iff hstruct).mpr ?_, hholds⟩
    exact ⟨hallocates, hrecord, entries, hholds.assigned, hgives, rfl⟩

end GoSource
end NodeGen
