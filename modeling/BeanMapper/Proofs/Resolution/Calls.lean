import BeanMapper.Proofs.Assignment.Steps
import BeanMapper.Proofs.Resolution.Ways
import BeanMapper.Proofs.Selection.Inference

/-!
# What chosen methods are called with

A chosen method has at most one parameter that receives the source value, and a mapping method or a
presence check has exactly one. `Assignment.Made` says how assignments come about: every call in
them is that of a chosen method which takes the source value once and is applied to an assignment
that provides it, a presence check is applied to the bare value, and every conversion is one that
was found between two types. What resolution answers is made so (`resolve_made`). Factories and
callbacks are not applied to anything, whatever they take (`factory_bare`, `callbacks_bare`).
-/

namespace BeanMapper

/-- How many parameters of a call receive the source value. -/
def Call.sourceCount (call : Call) : Nat :=
  call.bindings.countP fun binding => binding.value = .sourceValue

/-! ## Bound source values -/

namespace Matching

variable {request : Request} {vars : List String} {candidate : Candidate}
  {bindings rest : Ty.Bindings}

theorem ParameterBound.sourceValue_iff {parameter : Parameter} {value : BoundValue}
    (h : ParameterBound request vars bindings rest parameter value) :
    value = .sourceValue ↔ parameter.role = .source := by
  rw [← h.role_eq]
  cases value <;> simp [BoundValue.role]

/-- As many bindings receive the source value as there are parameters for it. -/
theorem countP_of_bindParameters {parameters : List Parameter} {bound : List Binding}
    (h : bindParameters request vars bindings parameters = some (bound, rest)) :
    bound.countP (fun binding => binding.value = .sourceValue) =
      parameters.countP fun parameter => parameter.role = .source := by
  induction parameters generalizing bindings bound rest with
  | nil =>
    cases h
    rfl
  | cons parameter parameters ih =>
    obtain ⟨value, between, bound', hvalue, hbound, rfl⟩ := bindParameters_cons h
    have hiff := hvalue.sourceValue_iff
    simp only [List.countP_cons, ih hbound, decide_eq_true_eq, hiff]

theorem family_of_unmarked {flags : Flags} (hfactory : flags.isFactory = false)
    (hcallback : flags.isCallback = false) :
    flags.family = .presenceCheck ∨ flags.family = .mapping := by
  unfold Flags.family
  rw [hfactory, hcallback, if_neg Bool.false_ne_true, if_neg Bool.false_ne_true]
  split
  · exact Or.inl rfl
  · exact Or.inr rfl

theorem ResultBound.sources (h : ResultBound request candidate bindings rest) :
    candidate.sources.length ≤ 1 ∧
      (candidate.flags.isFactory = false → candidate.flags.isCallback = false →
        candidate.sources.length = 1) := by
  cases h with
  | factory hfamily hsources =>
    refine ⟨hsources, fun hfactory hcallback => ?_⟩
    rcases family_of_unmarked hfactory hcallback with hother | hother <;>
      rw [hfamily] at hother <;> cases hother
  | callback hfamily hsources =>
    refine ⟨hsources, fun hfactory hcallback => ?_⟩
    rcases family_of_unmarked hfactory hcallback with hother | hother <;>
      rw [hfamily] at hother <;> cases hother
  | presenceCheck _ hsources => exact ⟨Nat.le_of_eq hsources, fun _ _ => hsources⟩
  | update _ hsources => exact ⟨Nat.le_of_eq hsources, fun _ _ => hsources⟩
  | mapping _ hsources => exact ⟨Nat.le_of_eq hsources, fun _ _ => hsources⟩

end Matching

namespace Selected.Answers

variable {request : Request} {candidates : List Candidate} {s : Selected}

/-- A chosen method receives the source value through its source parameters. -/
theorem sourceCount_eq (h : s.Answers request candidates) (mapper : Ty) :
    (Call.ofSelected mapper s).sourceCount = s.candidate.sources.length := by
  obtain ⟨between, hparameters, -⟩ := Matching.bind?_eq_some h.bound
  have hcount := Matching.countP_of_bindParameters hparameters
  rw [List.countP_eq_length_filter (l := s.candidate.parameters)] at hcount
  exact hcount

theorem sources (h : s.Answers request candidates) :
    s.candidate.sources.length ≤ 1 ∧
      (request.criteria.required.isFactory = false →
        request.criteria.required.isCallback = false → s.candidate.sources.length = 1) := by
  obtain ⟨between, -, hresult⟩ := Matching.bind?_eq_some h.bound
  rw [← h.family]
  exact hresult.sources

end Selected.Answers

/-! ## Supplied and bare calls -/

/-- A method that a resolver may choose: a candidate or a helper. -/
def Resolver.Offers (resolver : Resolver) (s : Selected) : Prop :=
  s.candidate ∈ resolver.candidates ∨ s.candidate ∈ resolver.helpers

namespace Reference

/-- The call of a method that a resolver has chosen takes the source value once and is applied to an
assignment that provides it. -/
structure Supplied (resolver : Resolver) (reference : Reference) : Prop where
  chosen : ∃ s, resolver.Offers s ∧ reference.call = .ofSelected resolver.mapper s
  takes : reference.call.sourceCount = 1
  isApplied : reference.argument.isSome = true

/-- The call of a method that a resolver has chosen takes the source value once at most and is
applied to nothing. -/
structure Bare (resolver : Resolver) (reference : Reference) : Prop where
  chosen : ∃ s, resolver.Offers s ∧ reference.call = .ofSelected resolver.mapper s
  takes : reference.call.sourceCount ≤ 1
  isBare : reference.argument = none

theorem references_apply (call : Call) (argument : Assignment) :
    (apply call argument).references = apply call argument :: argument.references := by
  rw [apply, references_mk, Option.toList_some, List.flatMap_singleton]

theorem Bare.references {resolver : Resolver} {reference : Reference}
    (h : reference.Bare resolver) :
    reference.references = [reference] := by
  obtain ⟨call, argument⟩ := reference
  cases h.isBare
  exact references_mk call none

end Reference

/-! ## Made assignments -/

namespace Assignment

/-- An assignment as a resolver and the wrappers around what it answers make it. -/
inductive Made (resolver : Resolver) : Assignment → Prop where
  | unchecked (value : SourceValue) : Made resolver (.direct value .unchecked)
  | accessor (value : SourceValue) (expression : String) :
    Made resolver (.direct value (.accessor expression))
  | checked (value : SourceValue) {s : Selected} (hs : resolver.Offers s)
    (htakes : (Call.ofSelected resolver.mapper s).sourceCount = 1) :
    Made resolver
      (.direct value (.method (.apply (.ofSelected resolver.mapper s) (.direct value .unchecked))))
  | convert {source target : Ty} {conversion : KnownConversion}
    (hc : Conversion.find? resolver.table source target = some conversion)
    {argument : Assignment} (h : Made resolver argument) :
    Made resolver (.convert conversion.toConversion argument)
  | call {s : Selected} {argument : Assignment} (hs : resolver.Offers s)
    (htakes : (Call.ofSelected resolver.mapper s).sourceCount = 1) (h : Made resolver argument) :
    Made resolver (.call (.apply (.ofSelected resolver.mapper s) argument))
  | nullCheck (guard : Guard) {inner : Assignment} (h : Made resolver inner) :
    Made resolver (.nullCheck guard inner)
  | merge (guard : Guard) (check : NullValueCheck) (property : NullValueProperty)
    {inner : Assignment} (h : Made resolver inner) :
    Made resolver (.merge guard check property inner)
  | setter (setting : Setting) {inner : Assignment} {fallback : Option Assignment}
    (h : Made resolver inner) (hfallback : ∀ other, fallback = some other → Made resolver other) :
    Made resolver (.setter setting inner fallback)

variable {resolver : Resolver} {a : Assignment}

/-- A value is made if nothing is called to tell whether it is there. -/
theorem made_of_unchecked (value : SourceValue) {presence : Presence}
    (h : presence.references = []) : (direct value presence).Made resolver := by
  cases presence with
  | unchecked => exact .unchecked value
  | accessor expression => exact .accessor value expression
  | method reference =>
    obtain ⟨call, argument⟩ := reference
    rw [Presence.references_method, Reference.references_mk] at h
    cases h

/-- All calls of a made assignment are supplied with the source value. -/
theorem Made.supplied (h : a.Made resolver) :
    ∀ reference ∈ a.references, reference.Supplied resolver := by
  induction h with
  | unchecked value =>
    intro reference hmem
    rw [references_direct, Presence.references_unchecked] at hmem
    cases hmem
  | accessor value expression =>
    intro reference hmem
    rw [references_direct, Presence.references_accessor] at hmem
    cases hmem
  | checked value hs htakes =>
    intro reference hmem
    rw [references_direct, Presence.references_method, Reference.references_apply,
      references_direct, Presence.references_unchecked] at hmem
    cases List.mem_singleton.1 hmem
    exact ⟨⟨_, hs, rfl⟩, htakes, rfl⟩
  | convert _ _ ih =>
    rw [references_convert]
    exact ih
  | call hs htakes _ ih =>
    intro reference hmem
    rw [references_call, Reference.references_apply] at hmem
    rcases List.mem_cons.1 hmem with rfl | hmem
    · exact ⟨⟨_, hs, rfl⟩, htakes, rfl⟩
    · exact ih reference hmem
  | nullCheck guard _ ih =>
    rw [references_nullCheck]
    exact ih
  | merge guard check property _ ih =>
    rw [references_merge]
    exact ih
  | setter setting _ _ ih ihfallback =>
    intro reference hmem
    rw [references_setter] at hmem
    rcases List.mem_append.1 hmem with hmem | hmem
    · exact ih reference hmem
    -- the default of a setter is made like the rest
    · obtain ⟨other, hother, hmem⟩ := List.mem_flatMap.1 hmem
      exact ihfallback other (Option.mem_toList.1 hother) reference hmem

end Assignment

namespace Resolver

variable {resolver : Resolver} {source target : Ty} {demand : Demand} {argument a : Assignment}
  {s : Selected}

/-! ## Resolution -/

/-- A chosen method that is neither a factory nor a callback takes the source value once. -/
theorem takes_of_mem_select {request : Request} {candidates : List Candidate}
    (hs : s ∈ request.select candidates) (hfactory : request.criteria.required.isFactory = false)
    (hcallback : request.criteria.required.isCallback = false) (mapper : Ty) :
    (Call.ofSelected mapper s).sourceCount = 1 := by
  have hanswers := Request.answers_of_mem_select hs
  exact (hanswers.sourceCount_eq mapper).trans (hanswers.sources.2 hfactory hcallback)

theorem offers_of_mem_select (hs : s ∈ resolver.select demand) : resolver.Offers s :=
  Or.inl (List.mem_of_getElem? (answers_of_mem_select hs).place)

theorem offers_of_mem_select_helpers {request : Request}
    (hs : s ∈ request.select resolver.helpers) : resolver.Offers s :=
  Or.inr (List.mem_of_getElem? (Request.answers_of_mem_select hs).place)

theorem made_call {request : Request} {candidates : List Candidate}
    (hs : s ∈ request.select candidates) (hoffers : resolver.Offers s)
    (hr : request.criteria.required = {}) (h : argument.Made resolver) :
    (resolver.call s argument).Made resolver :=
  .call hoffers (takes_of_mem_select hs (by rw [hr]) (by rw [hr]) _) h

/-- Whatever the way, it makes an assignment of one. -/
theorem Way.made (h : Way resolver source demand argument a)
    (hr : demand.criteria.required = {}) (harg : argument.Made resolver) : a.Made resolver := by
  cases h with
  | method hs => exact made_call hs (offers_of_mem_select hs) hr harg
  | direct => exact harg
  | conversion _ hc => exact .convert hc harg
  | helper _ hs => exact made_call hs (offers_of_mem_select_helpers hs) hr harg
  | twoMethods _ _ hi ho =>
    have hinner := made_call hi (offers_of_mem_select hi) rfl harg
    exact made_call ho (offers_of_mem_select ho) hr hinner
  | afterConversion _ _ hc hs => exact made_call hs (offers_of_mem_select hs) hr (.convert hc harg)
  | beforeConversion _ hc hs => exact .convert hc (made_call hs (offers_of_mem_select hs) hr harg)

/-- What resolution answers is made, if the value at hand is. -/
theorem resolve_made {value : SourceValue} {presence : Presence} {criteria : Criteria}
    {context : List Parameter}
    (h : resolver.resolve value presence target criteria context = .ok a)
    (hr : criteria.required = {}) (hv : (Assignment.direct value presence).Made resolver) :
    a.Made resolver :=
  (resolve_way h).made hr hv

/-- A value is made with a presence check that is applied to the bare value. -/
theorem made_of_presenceCheck {context : List Parameter} {check : Reference} (value : SourceValue)
    (h : resolver.presenceCheck source context = .ok (some check)) :
    (Assignment.direct value (.method (.apply check.call (.direct value .unchecked)))).Made
      resolver := by
  simp only [presenceCheck, bind, Except.bind, pure, Except.pure] at h
  split at h
  · cases h
  · rename_i only honly
    cases only with
    | none => cases h
    | some s =>
      cases h
      have hs := mem_of_selectUnique honly
      exact .checked value (offers_of_mem_select hs) (takes_of_mem_select hs rfl rfl _)

/-! ## Factories and callbacks -/

theorem bare_refer (hs : s ∈ resolver.select demand) :
    (resolver.refer s).Bare resolver := by
  have hanswers := answers_of_mem_select hs
  refine ⟨⟨s, offers_of_mem_select hs, rfl⟩, ?_, rfl⟩
  exact Nat.le_trans (Nat.le_of_eq (hanswers.sourceCount_eq resolver.mapper)) hanswers.sources.1

theorem factory_bare {source : Option Ty} {context : List Parameter} {reference : Reference}
    (h : resolver.factory target source context = .ok (some reference)) :
    reference.Bare resolver := by
  simp only [factory, bind, Except.bind, pure, Except.pure] at h
  split at h
  · cases h
  · rename_i only honly
    cases only with
    | none => cases h
    | some s =>
      cases h
      have hchosen := single_some honly
      have hmem : s ∈ resolver.select { source, target, criteria := .objectFactory, context } := by
        split at hchosen
        · exact (List.mem_filter.1 (hchosen ▸ List.mem_singleton_self s)).1
        · exact hchosen ▸ List.mem_singleton_self s
      exact bare_refer hmem

theorem callbacks_bare {timing : Timing} {source : Option Ty} {context : List Parameter}
    {reference : Reference} (h : reference ∈ resolver.callbacks timing source target context) :
    reference.Bare resolver := by
  obtain ⟨s, hs, rfl⟩ := List.mem_map.1 h
  exact bare_refer (List.mem_filter.1 hs).1

end Resolver

end BeanMapper
