import BeanMapper.Mapper.Generated
import BeanMapper.Proofs.Generation.Outcomes
import BeanMapper.Proofs.Generation.Paths
import BeanMapper.Proofs.Resolution.Calls

/-!
# Calls of generated methods

A generated method calls its factory, its callbacks, and what its assignments call: the methods
beneath their wrappers, those in arguments and default values, and presence checks. All calls within
assignments are supplied with the source value that they take. Factories and callbacks never are;
where one takes the source value, its call forgets it (`MapperDecl.supplied_iff_not_forgotten`).
-/

namespace BeanMapper

/-! ## Wrappers -/

theorem Wrapping.wrap_made {resolver : Resolver} (wrapping : Wrapping) {assignment : Assignment}
    {fallback : Option Assignment} (ha : assignment.Made resolver)
    (hf : ∀ other, fallback = some other → other.Made resolver) :
    (wrapping.wrap assignment fallback).Made resolver := by
  unfold wrap container plain
  split
  · dsimp only
    split
    · exact .merge _ _ _ ha
    · split
      · exact .nullCheck _ ha
      · exact .setter _ ha nofun
  · exact .setter _ ha hf

/-! ## Sources -/

namespace Source

variable {table : ClassTable} {beans : List SourceBean}

/-- Before a source is checked, nothing is called to tell whether it is there. -/
def Unchecked (source : Source) : Prop := source.presence.references = []

theorem references_stepTo (reference : String) (property : Property) :
    (stepTo reference property).presence.references = [] := by
  unfold stepTo
  cases property.presenceCheckerName? with
  | none => exact Presence.references_unchecked
  | some checker => exact Presence.references_accessor _

theorem unchecked_through (parameter : Parameter) (properties : List Property) :
    (through parameter properties).Unchecked := by
  unfold through
  split
  · exact Presence.references_unchecked
  · exact references_stepTo _ _

theorem unchecked_of_candidates {explicit : Option PropertyOptions} {name : String}
    {sources : List Source} (h : candidates table beans explicit name = .ok sources) :
    ∀ source ∈ sources, source.Unchecked := by
  intro source hmem
  rcases through_of_candidates h source hmem with ⟨text, rfl⟩ | ⟨bean, -, properties, rfl, -⟩
  · exact Presence.references_unchecked
  · exact unchecked_through bean.parameter properties

/-- A source is made with the check that it is given, or without one. -/
theorem made_of_checked {resolver : Resolver} {context : List Parameter} {source checked : Source}
    (hsource : source.Unchecked) (h : source.checked resolver context = .ok checked) :
    (Assignment.direct checked.value checked.presence).Made resolver := by
  unfold Source.checked at h
  split at h
  · cases h
    exact Assignment.made_of_unchecked _ hsource
  · split at h
    · cases h
    · cases h
      exact Assignment.made_of_unchecked _ hsource
    · rename_i check hcheck
      cases h
      exact Resolver.made_of_presenceCheck _ hcheck

end Source

/-! ## Methods -/

namespace GeneratedMethod

/-- Everything that a method calls, wherever it is. -/
def allReferences (method : GeneratedMethod) : List Reference :=
  method.references.flatMap Reference.references ++
    method.parts.flatMap fun part => part.2.references

/-- The calls of a method are calls of chosen methods: within its assignments they are supplied with
the source value, and those of its factory and its callbacks are bare. -/
structure CallsChosen (resolver : Resolver) (method : GeneratedMethod) : Prop where
  bare : ∀ reference ∈ method.references, reference.Bare resolver
  made : ∀ part ∈ method.parts, part.2.Made resolver

variable {resolver : Resolver} {method : GeneratedMethod} {reference : Reference}

theorem mem_allReferences_of_root (h : reference ∈ method.references) :
    reference ∈ method.allReferences := by
  refine List.mem_append_left _ (List.mem_flatMap.2 ⟨reference, h, ?_⟩)
  obtain ⟨call, argument⟩ := reference
  rw [Reference.references_mk]
  exact List.mem_cons_self

theorem CallsChosen.cases (h : method.CallsChosen resolver)
    (hmem : reference ∈ method.allReferences) :
    (reference ∈ method.references ∧ reference.Bare resolver) ∨ reference.Supplied resolver := by
  rcases List.mem_append.1 hmem with hmem | hmem
  · obtain ⟨root, hroot, hmem⟩ := List.mem_flatMap.1 hmem
    have hbare := h.bare root hroot
    rw [hbare.references, List.mem_singleton] at hmem
    exact Or.inl ⟨hmem ▸ hroot, hmem ▸ hbare⟩
  · obtain ⟨part, hpart, hmem⟩ := List.mem_flatMap.1 hmem
    exact Or.inr ((h.made part hpart).supplied reference hmem)

end GeneratedMethod

namespace Generator

variable {generator : Generator} {method : Method} {target : Property}

theorem made_of_propertyMapping {explicit : Option PropertyOptions} {source : Source}
    {mapping : PropertyMapping}
    (h : generator.propertyMapping method target explicit source = .ok mapping)
    (hs : (Assignment.direct source.value source.presence).Made generator.toResolver) :
    mapping.assignment.Made generator.toResolver := by
  obtain ⟨criteria, assignment, fallback, hrequired, hresolved, hmapped⟩ := propertyMapping_made h
  rw [hmapped.assignment_eq]
  refine Wrapping.wrap_made _ (Resolver.resolve_made hresolved hrequired hs) ?_
  intro other hother
  obtain ⟨text, -, hdefault⟩ := hmapped.fallback_resolved other hother
  exact Resolver.resolve_made hdefault rfl (.unchecked _)

theorem Fate.made {beans : List SourceBean} {outcome : Outcome} {mapping : PropertyMapping}
    (h : Fate generator method beans target outcome) (hm : outcome.mapping = some mapping) :
    mapping.assignment.Made generator.toResolver := by
  cases h with
  | mapped _ hsources hchecked hmade =>
    cases hm
    have hsource := Source.unchecked_of_candidates hsources _ (List.mem_singleton_self _)
    exact made_of_propertyMapping hmade (Source.made_of_checked hsource hchecked)
  | ignored => cases hm
  | unprovided => cases hm

theorem made_of_partMapping {position : ElementPosition} {options : ElementOptions}
    {expression : String} {source result : Ty} {part : PartMapping}
    (h : generator.partMapping method position options expression source result = .ok part) :
    part.assignment.Made generator.toResolver := by
  unfold partMapping at h
  split at h
  · rename_i assignment hresolved
    cases h
    exact Resolver.resolve_made hresolved rfl (.unchecked _)
  · cases h

/-- A factory that a creation calls is called bare. -/
def BareCreation (resolver : Resolver) (creation : Creation) : Prop :=
  ∀ reference ∈ creation.factory?.toList, reference.Bare resolver

theorem bareCreation_given (resolver : Resolver) : BareCreation resolver .given := by
  intro reference hmem
  cases hmem

theorem creation_bare {result : Ty} {source : Option Ty} {context : List Parameter}
    {creation : Creation} (h : generator.creation result source context = .ok creation) :
    BareCreation generator.toResolver creation := by
  unfold Generator.creation at h
  intro reference hmem
  split at h
  · cases h
  · rename_i found hfound
    cases h
    cases List.mem_singleton.1 hmem
    exact Resolver.factory_bare hfound
  · cases hconstructible : generator.constructible result with
    | error message => rw [hconstructible] at h; cases h
    | ok ty =>
      rw [hconstructible] at h
      cases h
      cases hmem

theorem containerCreation_bare {source : Ty} {creation : Creation}
    (h : generator.containerCreation method source = .ok creation) :
    BareCreation generator.toResolver creation := by
  unfold containerCreation at h
  split at h
  · cases h
    exact bareCreation_given _
  · exact creation_bare h

theorem complete_callsChosen {source : Option Ty} {creation : Creation}
    {strategy : NullValueMapping} {body : MethodBody}
    (hcreation : BareCreation generator.toResolver creation)
    (hbody : ∀ part ∈ body.parts, part.2.Made generator.toResolver) :
    (generator.complete method source creation strategy body).CallsChosen generator.toResolver where
  bare := by
    intro reference hmem
    rcases List.mem_append.1 hmem with hmem | hafter
    · rcases List.mem_append.1 hmem with hfactory | hbefore
      · exact hcreation reference hfactory
      · exact Resolver.callbacks_bare hbefore
    · exact Resolver.callbacks_bare hafter
  made := hbody

/-! ## Drafts -/

variable {generated : GeneratedMethod} {source : Parameter}

theorem bean_callsChosen (h : (generator.bean method).method = some generated) :
    generated.CallsChosen generator.toResolver := by
  obtain ⟨beans, writable, mappings, creation, hdrafted, hcreation, rfl⟩ := bean_made h
  refine complete_callsChosen ?_ ?_
  · rcases hcreation with rfl | hcreation
    · exact bareCreation_given _
    · exact creation_bare hcreation
  · intro part hpart
    obtain ⟨mapping, hmapping, rfl⟩ := List.mem_map.1 hpart
    rw [hdrafted.mappings_eq] at hmapping
    obtain ⟨outcome, houtcome, hmade⟩ := List.mem_filterMap.1 hmapping
    obtain ⟨target, htarget, rfl⟩ := List.mem_map.1 houtcome
    exact (hdrafted.fate target htarget).made hmade

theorem iterable_callsChosen (h : generator.iterable method source = .ok generated) :
    generated.CallsChosen generator.toResolver := by
  obtain ⟨_, _, element, creation, -, -, helement, hcreation, rfl⟩ := iterable_made h
  refine complete_callsChosen ?_ ?_
  · rcases hcreation with rfl | hcreation
    · exact bareCreation_given _
    · exact containerCreation_bare hcreation
  · intro part hmem
    rw [List.mem_singleton.1 hmem]
    exact made_of_partMapping helement

theorem map_callsChosen (h : generator.map method source = .ok generated) :
    generated.CallsChosen generator.toResolver := by
  obtain ⟨_, _, _, _, key, value, creation, -, -, hkey, hvalue, hcreation, rfl⟩ := map_made h
  refine complete_callsChosen (containerCreation_bare hcreation) ?_
  intro part hmem
  rcases List.mem_cons.1 hmem with rfl | hmem
  · exact made_of_partMapping hkey
  · rw [List.mem_singleton.1 hmem]
    exact made_of_partMapping hvalue

/-- Every call of a generated method is the call of a chosen method. -/
theorem draft_callsChosen (h : (generator.draft method).method = some generated) :
    generated.CallsChosen generator.toResolver := by
  rcases draft_cases h with hbean | ⟨source, -, hiterable | hmap⟩
  · rw [hbean] at h
    exact bean_callsChosen h
  · exact iterable_callsChosen hiterable
  · exact map_callsChosen hmap

end Generator

/-! ## Mappers -/

/-- A call is applied to an assignment exactly where it takes the source value. -/
def Reference.Carries (reference : Reference) : Prop :=
  0 < reference.call.sourceCount ↔ reference.argument.isSome = true

/-- A factory or a callback takes the source value. -/
def GeneratedMethod.Forgets (method : GeneratedMethod) (reference : Reference) : Prop :=
  reference ∈ method.references ∧ 0 < reference.call.sourceCount

namespace MapperDecl

variable {mapper : MapperDecl} {table : ClassTable} {settings : Settings}
  {method : GeneratedMethod} {reference : Reference}

theorem callsChosen_of_mem (hm : method ∈ (mapper.generate table settings).methods) :
    method.CallsChosen (mapper.generator table settings).toResolver := by
  obtain ⟨draft, hdraft, hmethod⟩ := List.mem_filterMap.1 hm
  obtain ⟨declared, -, rfl⟩ := List.mem_map.1 hdraft
  exact Generator.draft_callsChosen hmethod

/-- All calls in a generated mapper are those of methods that it has chosen. -/
theorem exists_selected (mapper : MapperDecl) (table : ClassTable) (settings : Settings) :
    ∀ method ∈ (mapper.generate table settings).methods, ∀ reference ∈ method.allReferences,
      ∃ s, reference.call = .ofSelected mapper.ty s := by
  intro method hm reference hr
  rcases (callsChosen_of_mem hm).cases hr with ⟨-, hbare⟩ | hsupplied
  · obtain ⟨s, -, hs⟩ := hbare.chosen
    exact ⟨s, hs⟩
  · obtain ⟨s, -, hs⟩ := hsupplied.chosen
    exact ⟨s, hs⟩

/-- **Only factories and callbacks forget the source value.** Every call of a generated method takes
the source value once at most, and it is applied to an assignment exactly where it takes it, unless
it is the call of a factory or a callback that takes it. -/
theorem supplied_iff_not_forgotten (hm : method ∈ (mapper.generate table settings).methods)
    (hr : reference ∈ method.allReferences) :
    reference.call.sourceCount ≤ 1 ∧ (reference.Carries ↔ ¬method.Forgets reference) := by
  rcases (callsChosen_of_mem hm).cases hr with ⟨hroot, hbare⟩ | hsupplied
  · refine ⟨hbare.takes, ?_⟩
    unfold Reference.Carries GeneratedMethod.Forgets
    simp only [hbare.isBare, hroot, Option.isSome_none, Bool.false_eq_true, iff_false, true_and]
  · have hnot : reference ∉ method.references := by
      intro hroot
      have hnone := ((callsChosen_of_mem hm).bare reference hroot).isBare
      have happlied := hsupplied.isApplied
      rw [hnone] at happlied
      cases happlied
    refine ⟨Nat.le_of_eq hsupplied.takes, iff_of_true ?_ fun h => hnot h.1⟩
    exact iff_of_true (by rw [hsupplied.takes]; exact Nat.one_pos) hsupplied.isApplied

end MapperDecl

/-! ## Letters from notes -/

namespace Stationery

/-- A note has an author, and a letter has a sender. -/
def classes : ClassTable := .declareAll {} [.plain "post.Person", .plain "post.Sender",
  { ClassDecl.plain "post.Note" with properties := [{ name := "from", typeText := "post.Person" }] },
  { ClassDecl.plain "post.Letter" with
    properties := [{ name := "from", typeText := "post.Sender" }] }]

def method (name source result : String) : Method where
  name := name
  parameters := [{ name := "source", ty := .named source }]
  returnType := .named result
  owner := .named "post.LetterMapper"

/-- Letters come from a factory that takes the note, and their senders from a method that takes the
author. -/
def mapper : MapperDecl where
  ty := .named "post.LetterMapper"
  methods := [method "toLetter" "post.Note" "post.Letter",
    { method "newLetter" "post.Note" "post.Letter" with
      family := .objectFactory, isAbstract := false },
    { method "toSender" "post.Person" "post.Sender" with isAbstract := false }]

/-- The generated method calls the factory with the note and, for the sender, the other method with
the author. -/
theorem generated_calls : ∃ method ∈ (mapper.generate classes {}).methods,
    (∃ factory ∈ method.references,
      factory.call.name = "newLetter" ∧ factory.call.sourceCount = 1) ∧
    ∃ sender ∈ method.allReferences,
      sender.call.name = "toSender" ∧ sender.call.sourceCount = 1 ∧
        sender.argument.isSome = true := by
  decide +kernel

/-- The method that makes senders is supplied with the author. -/
theorem supplied_iff_not_forgotten_sender :
    ∃ method ∈ (mapper.generate classes {}).methods, ∃ sender ∈ method.allReferences,
      sender.call.name = "toSender" ∧ sender.call.sourceCount ≤ 1 ∧
        (sender.Carries ↔ ¬method.Forgets sender) ∧ sender.Carries := by
  obtain ⟨method, hm, -, sender, hsender, hname, hcount, hargument⟩ := generated_calls
  obtain ⟨hone, hiff⟩ := MapperDecl.supplied_iff_not_forgotten hm hsender
  have hcarries : sender.Carries := iff_of_true (by rw [hcount]; exact Nat.one_pos) hargument
  exact ⟨method, hm, sender, hsender, hname, hone, hiff, hcarries⟩

/-- The factory takes the note, and nothing is passed to it. -/
theorem not_always_supplied : ¬∀ (mapper : MapperDecl) (table : ClassTable) (settings : Settings),
    ∀ method ∈ (mapper.generate table settings).methods, ∀ reference ∈ method.allReferences,
      reference.Carries ∧ reference.call.sourceCount ≤ 1 := by
  intro hall
  obtain ⟨method, hm, ⟨factory, hfactory, -, hcount⟩, -⟩ := generated_calls
  have hbare := (MapperDecl.callsChosen_of_mem hm).bare factory hfactory
  have hmem : factory ∈ method.allReferences :=
    GeneratedMethod.mem_allReferences_of_root hfactory
  have hargument := (hall mapper classes {} method hm factory hmem).1.1
    (by rw [hcount]; exact Nat.one_pos)
  rw [hbare.isBare] at hargument
  cases hargument

end Stationery

end BeanMapper
