/-
Dispatch to visitors.

The methods that the visitor interface of a family declares, and the ones that the
dispatch methods of its variants call, come about apart from each other.  Both are
read off the text here, where they agree.
-/
import NodeGen.Proofs.Generator.Translation

namespace NodeGen

open GoSource

/-! ## Interfaces and methods of a text -/

namespace GoSource

structure Method where
  receiver : Binding
  signature : Signature
  body : List Statement

def Declaration.interface? : Declaration → Option (String × List Signature)
  | interface name methods => some (name, methods)
  | _ => none

def Declaration.method? : Declaration → Option Method
  | method receiver signature body => some ⟨receiver, signature, body⟩
  | _ => none

def interfacesOf (ds : List Declaration) : List (String × List Signature) :=
  ds.filterMap Declaration.interface?

def methodsOf (ds : List Declaration) : List Method := ds.filterMap Declaration.method?

/-- The name of a declared method with the types of its parameters. -/
def Signature.declared (s : Signature) : String × List String :=
  (s.name, s.parameters.map Binding.type)

/-- The methods that a method hands its receiver to, each with the type of it. -/
def Method.called (m : Method) : List (String × List String) :=
  m.body.filterMap fun
    | .giveCall _ method argument =>
      if argument = m.receiver.name then some (method, [m.receiver.type]) else none
    | _ => none

/-- The dispatch methods call what the visitor declares, in that order. -/
structure Agree (dispatch : Signature) (visitor : String) (visits : List Signature)
    (accepts : List Method) : Prop where
  /-- The dispatch method takes the visitor. -/
  visitor : dispatch.parameters.map Binding.type = [visitor]
  methods : visits.map Signature.declared = accepts.flatMap Method.called
  signature : ∀ m ∈ accepts, m.signature = dispatch
  /-- The call is all that a dispatch method does. -/
  body : ∀ m ∈ accepts, ∃ parameter method, m.signature.parameters = [parameter] ∧
    m.body = [.giveCall parameter.name method m.receiver.name]
  result : ∀ s ∈ visits, s.result = dispatch.result

end GoSource

/-! ## Families -/

namespace Family

variable (f : Family)

/-- The dispatch method of a variant. -/
def accept (v : Variant) : Method :=
  ⟨⟨f.name, "*" ++ v.name⟩, f.dispatch, [.giveCall "visitor" (f.visitMethod v) f.name]⟩

theorem interfacesOf_declarations :
    interfacesOf f.declarations =
      [(f.baseName, [f.dispatch]), (f.visitorName, f.variants.map f.visitSignature)] := by
  have hnodes : interfacesOf (f.variants.flatMap fun v => f.nodeDeclarations v v.typed) = [] := by
    rw [interfacesOf, List.filterMap_flatMap]
    exact List.flatMap_eq_nil_iff.mpr fun _ _ => rfl
  rw [declarations, interfacesOf, List.filterMap_append, ← interfacesOf, ← interfacesOf, hnodes,
    List.append_nil]
  rfl

theorem methodsOf_declarations : methodsOf f.declarations = f.variants.map f.accept := by
  have hnodes : methodsOf (f.variants.flatMap fun v => f.nodeDeclarations v v.typed) =
      f.variants.map f.accept := by
    rw [methodsOf, List.filterMap_flatMap, List.map_eq_flatMap]
    rfl
  rw [declarations, methodsOf, List.filterMap_append, ← methodsOf, ← methodsOf, hnodes]
  rfl

theorem called_accept (v : Variant) : (f.accept v).called = [(f.visitSignature v).declared] := by
  simp [accept, Method.called, visitSignature, Signature.declared]

theorem agree_declarations :
    Agree f.dispatch f.visitorName (f.variants.map f.visitSignature) (f.variants.map f.accept) where
  visitor := rfl
  methods := by
    rw [List.map_map, List.flatMap_map, List.map_eq_flatMap]
    refine congrArg (List.flatMap · f.variants) ?_
    funext v
    exact (f.called_accept v).symm
  signature := by
    intro m hm
    obtain ⟨v, -, rfl⟩ := List.mem_map.mp hm
    rfl
  body := by
    intro m hm
    obtain ⟨v, -, rfl⟩ := List.mem_map.mp hm
    exact ⟨_, _, rfl, rfl⟩
  result := by
    intro s hs
    obtain ⟨v, -, rfl⟩ := List.mem_map.mp hs
    rfl

theorem name_of_visitMethod {v w : Variant} (h : f.visitMethod v = f.visitMethod w) :
    v.name = w.name := by
  have htexts := congrArg String.toList h
  simp only [visitMethod, String.toList_append, List.append_assoc, List.append_cancel_left_eq,
    List.append_cancel_right_eq] at htexts
  exact String.toList_inj.mp htexts

theorem nodup_visits (h : (f.variants.map Variant.name).Nodup) :
    ((f.variants.map f.visitSignature).map Signature.name).Nodup := by
  rw [List.map_map]
  rw [List.nodup_iff_pairwise_ne, List.pairwise_map] at h ⊢
  exact h.imp fun hne heq => hne (f.name_of_visitMethod heq)

end Family

/-- In the text of a family with identifiers for names, the dispatch methods of the
variants agree with the visitor interface, and distinct variants have methods of
their own. -/
theorem Generation.familyText_agree {f : Family} (hnamed : f.Named) (htranslates : f.Translates)
    (config : Config) :
    ∃ body ds base dispatch visitor visits,
      (familyText f config).collect.1 =
        .ok (withPreamble config.generator config.package body) ∧
      body = renderAll ds ∧ readAll body = some ds ∧
      interfacesOf ds = [(base, [dispatch]), (visitor, visits)] ∧
      dispatch.name = dispatchName ∧
      (methodsOf ds).map (fun m => m.receiver.type) = f.variants.map (fun v => "*" ++ v.name) ∧
      Agree dispatch visitor visits (methodsOf ds) ∧
      ((f.variants.map Variant.name).Nodup → (visits.map Signature.name).Nodup) := by
  have hagree := f.agree_declarations
  rw [← f.methodsOf_declarations] at hagree
  have hreceivers : (methodsOf f.declarations).map (fun m => m.receiver.type) =
      f.variants.map (fun v => "*" ++ v.name) := by
    rw [f.methodsOf_declarations, List.map_map]
    rfl
  exact ⟨renderAll f.declarations, f.declarations, f.baseName, f.dispatch, f.visitorName,
    f.variants.map f.visitSignature, congrArg Prod.fst (familyText_gives htranslates config).collect,
    rfl, readAll_renderAll hnamed.declarations, f.interfacesOf_declarations, rfl, hreceivers,
    hagree, f.nodup_visits⟩

theorem Generation.stmtText_agree :
    stmtFamily.Named ∧ stmtFamily.Translates ∧
      ∃ body ds base dispatch visitor visits,
        (familyText stmtFamily (Config.default "/work")).collect.1 =
          .ok (withPreamble generatorName defaultPackage body) ∧
        readAll body = some ds ∧
        interfacesOf ds = [(base, [dispatch]), (visitor, visits)] ∧
        Agree dispatch visitor visits (methodsOf ds) ∧
        (visits.map Signature.name).Nodup := by
  have hnamed : stmtFamily.Named := named_builtin stmtFamily (by decide)
  have htranslates : stmtFamily.Translates := translates_builtin stmtFamily (by decide)
  obtain ⟨body, ds, base, dispatch, visitor, visits, htext, -, hread, hinterfaces, -, -, hagree,
    hnodup⟩ := familyText_agree hnamed htranslates (Config.default "/work")
  exact ⟨hnamed, htranslates, body, ds, base, dispatch, visitor, visits, htext, hread,
    hinterfaces, hagree, hnodup (by decide)⟩

end NodeGen
