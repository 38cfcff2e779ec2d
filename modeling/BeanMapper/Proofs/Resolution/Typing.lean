import BeanMapper.Proofs.Conversion.Finding
import BeanMapper.Proofs.Resolution.Ways
import BeanMapper.Proofs.Selection.Inference

/-!
# Well-typed resolution

An assignment is well typed if every conversion is applied to a value of the type that it converts,
and every call passes its one source parameter and its context parameters what fits them once the
type parameters have their values. For each of the ways of resolution this follows from the
soundness of inference; `resolve_wellTyped` says it of every answer, and that the answer fits the
target.
-/

namespace BeanMapper

open ClassTable

/-! ## Types of assignments -/

/-- The type of the value that an assignment produces. -/
def Assignment.valueType : Assignment → Ty
  | direct value _ => value.ty
  | convert conversion _ => conversion.target
  | call (.mk c _) => c.returnType.substitute c.typeBindings
  | nullCheck _ inner => inner.valueType
  | merge _ _ _ inner => inner.valueType
  | setter _ inner _ => inner.valueType

/-- Whether what a binding passes fits its parameter, where the source value is of this type. A call
that creates its result is passed no target. -/
def Binding.Fits (table : ClassTable) (context : List Parameter) (types : Ty.Bindings)
    (source : Ty) (binding : Binding) : Prop :=
  match binding.value with
  | .sourceValue => table.isAssignable source (binding.ty.substitute types) = true
  | .mappingTarget => False
  | .targetType _ => True
  | .context argument => ∃ p ∈ context, p.name = argument ∧
      table.isAssignable p.ty (binding.ty.substitute types) = true

/-- A call takes a value of a type: one parameter receives the value, and every parameter receives
what fits. -/
structure Call.Takes (table : ClassTable) (context : List Parameter) (source : Ty) (call : Call) :
    Prop where
  one : (call.bindings.filter fun binding => binding.value = .sourceValue).length = 1
  fits : ∀ binding ∈ call.bindings, binding.Fits table context call.typeBindings source

/-- Every conversion is applied to what it converts, and every call to what it takes. -/
def Assignment.WellTyped (table : ClassTable) (context : List Parameter) : Assignment → Prop
  | direct _ _ => True
  | convert conversion argument =>
    conversion.source = argument.valueType ∧ argument.WellTyped table context
  | call (.mk _ none) => True
  | call (.mk c (some argument)) =>
    c.Takes table context argument.valueType ∧ argument.WellTyped table context
  | nullCheck _ inner => inner.WellTyped table context
  | merge _ _ _ inner => inner.WellTyped table context
  | setter _ inner fallback =>
    inner.WellTyped table context ∧
      match fallback with
      | none => True
      | some other => other.WellTyped table context

/-- A resolver whose classes have well-formed supertypes and whose methods are well-formed. -/
structure Resolver.WellFormed (resolver : Resolver) : Prop where
  supertypes : resolver.table.SupertypesWellFormed
  candidates : ∀ c ∈ resolver.candidates, c.toSignature.WellFormed resolver.table
  helpers : ∀ c ∈ resolver.helpers, c.toSignature.WellFormed resolver.table

/-! ## Chosen methods -/

/-- Bound parameters of the source role are the bindings that receive the source value. -/
theorem length_filter_sourceValue {request : Request} {c : Ty.Bindings}
    {parameters : List Parameter} {bound : List Binding}
    (h : List.Forall₂ (Binding.Binds request c) parameters bound) :
    (bound.filter fun binding => binding.value = .sourceValue).length =
      (parameters.filter fun p => p.role = .source).length := by
  induction h with
  | nil => rfl
  | @cons p binding ps bs hb _ ih =>
    have hrole := hb.role_eq
    have : binding.value = .sourceValue ↔ p.role = .source := by
      rw [← hrole]
      cases binding.value <;> simp [BoundValue.role]
    by_cases hp : p.role = .source
    · simp [hp, this.2 hp, ih]
    · simp [hp, mt this.1 hp, ih]

theorem exists_parameter_of_binds {request : Request} {c : Ty.Bindings}
    {parameters : List Parameter} {bound : List Binding}
    (h : List.Forall₂ (Binding.Binds request c) parameters bound) {binding : Binding}
    (hb : binding ∈ bound) : ∃ p ∈ parameters, Binding.Binds request c p binding := by
  induction h with
  | nil => cases hb
  | cons hp _ ih =>
    rcases List.mem_cons.1 hb with rfl | hb
    · exact ⟨_, by simp, hp⟩
    · obtain ⟨q, hq, hqb⟩ := ih hb
      exact ⟨q, by simp [hq], hqb⟩

/-- What a binding passes fits, if the request is about a source and the method creates. -/
theorem Binding.Binds.fits_binding {request : Request} {c : Ty.Bindings} {p : Parameter}
    {binding : Binding} {source : Ty} (h : Binding.Binds request c p binding)
    (hs : request.source = some source) (hp : p.role ≠ .mappingTarget) :
    binding.Fits request.table request.context c source := by
  have hfits := h.fits
  have hrole := h.role_eq
  unfold Binding.Fits
  rw [h.ty_eq]
  cases hv : binding.value with
  | sourceValue =>
    rw [hv] at hfits
    obtain ⟨t, ht, hfit⟩ := hfits
    cases hs.symm.trans ht
    exact hfit
  | mappingTarget => rw [hv] at hrole; exact hp hrole.symm
  | targetType target => trivial
  | context argument => rw [hv] at hfits; exact hfits

namespace Resolver

variable {resolver : Resolver} {demand : Demand} {source : Ty} {s : Selected}

/-- Demands about well-formed types without variables, for mapping methods that create. -/
structure Creates (resolver : Resolver) (source : Ty) (demand : Demand) : Prop where
  source_eq : demand.source = some source
  source : resolver.table.wellFormed [] source = true
  target : resolver.table.wellFormed [] demand.target = true
  context : ∀ p ∈ demand.context, resolver.table.wellFormed [] p.ty = true
  required : demand.criteria.required = {}
  prefersUpdate : demand.criteria.prefersUpdate = false

theorem Creates.request (hr : resolver.WellFormed) (hd : resolver.Creates source demand) :
    (resolver.request demand).WellFormed where
  supertypes := hr.supertypes
  source := by
    intro t ht
    cases hd.source_eq.symm.trans ht
    exact hd.source
  target := hd.target
  context := hd.context

/-- A chosen method takes the source, and what it returns fits the target. -/
theorem takes_of_answers {candidates : List Candidate} (hr : resolver.WellFormed)
    (hd : resolver.Creates source demand)
    (hc : ∀ c ∈ candidates, c.toSignature.WellFormed resolver.table)
    (hs : s.Answers (resolver.request demand) candidates) :
    (Call.ofSelected resolver.mapper s).Takes resolver.table demand.context source ∧
      resolver.table.isAssignable (s.candidate.returnType.substitute s.typeBindings)
        demand.target = true := by
  have hmem : s.candidate ∈ candidates := List.mem_of_getElem? hs.place
  have hflags : s.candidate.flags = {} := hs.family.trans hd.required
  have hupdate : s.candidate.isUpdate = false :=
    hs.creates (by rw [Resolver.request, hd.required]; rfl) hd.prefersUpdate
  obtain ⟨hone, hgives⟩ := Matching.creates_of_bind? hflags hupdate hs.bound
  obtain ⟨hbinds, hret⟩ := Matching.bind?_sound (hd.request hr) (hc _ hmem) hs.bound
  refine ⟨⟨?_, fun binding hb => ?_⟩, hret hgives⟩
  · exact (length_filter_sourceValue hbinds).trans hone
  · obtain ⟨p, hp, hpb⟩ := exists_parameter_of_binds hbinds hb
    refine hpb.fits_binding hd.source_eq fun hrole => ?_
    simp only [Signature.isUpdate, Signature.mappingTarget?, Option.isSome_eq_false_iff,
      Option.isNone_iff_eq_none, List.find?_eq_none] at hupdate
    exact hupdate p hp (by simpa using hrole)

theorem takes_of_select (hr : resolver.WellFormed) (hs : s ∈ resolver.select demand)
    (hd : resolver.Creates source demand) :
    (Call.ofSelected resolver.mapper s).Takes resolver.table demand.context source ∧
      resolver.table.isAssignable (s.candidate.returnType.substitute s.typeBindings)
        demand.target = true :=
  takes_of_answers hr hd hr.candidates (answers_of_mem_select hs)

theorem valueType_call (resolver : Resolver) (s : Selected) (argument : Assignment) :
    (resolver.call s argument).valueType = s.candidate.returnType.substitute s.typeBindings := rfl

/-! ## Steps -/

theorem candidate_wellFormed (hr : resolver.WellFormed) (hs : s ∈ resolver.select demand) :
    s.candidate.toSignature.WellFormed resolver.table :=
  hr.candidates _ (List.mem_of_getElem? (answers_of_mem_select hs).place)

/-- A step has no type parameters, so its types are what they are. -/
theorem typeParameters_of_isStep {c : Candidate} (h : isStep c = true) : c.typeParameters = [] := by
  simp only [isStep, Bool.and_eq_true, List.isEmpty_iff] at h
  exact h.1.2

theorem wellFormed_returnType (hr : resolver.WellFormed) (hs : s ∈ resolver.select demand)
    (hstep : isStep s.candidate = true) :
    resolver.table.wellFormed [] s.candidate.returnType = true := by
  have hc := (candidate_wellFormed hr hs).result
  rwa [typeParameters_of_isStep hstep] at hc

theorem wellFormed_source (hr : resolver.WellFormed) (hs : s ∈ resolver.select demand)
    (hstep : isStep s.candidate = true) {p : Parameter} (hp : s.candidate.sources.head? = some p) :
    resolver.table.wellFormed [] p.ty = true := by
  have hmem : p ∈ s.candidate.parameters := (List.mem_filter.1 (List.mem_of_head? hp)).1
  have hc := (candidate_wellFormed hr hs).parameters p hmem
  rwa [typeParameters_of_isStep hstep] at hc

/-! ## Resolution -/

/-- Every way leads from a well-typed argument to a well-typed assignment that fits the target. -/
theorem Way.wellTyped {argument a : Assignment} (hr : resolver.WellFormed)
    (hd : resolver.Creates source demand) (hty : argument.valueType = source)
    (harg : argument.WellTyped resolver.table demand.context)
    (h : Way resolver source demand argument a) :
    a.WellTyped resolver.table demand.context ∧
      resolver.table.isAssignable a.valueType demand.target = true := by
  subst hty
  cases h with
  | method hs =>
    obtain ⟨htakes, hret⟩ := takes_of_select hr hs hd
    exact ⟨⟨htakes, harg⟩, hret⟩
  | direct _ ha => exact ⟨harg, ha⟩
  | conversion _ hc =>
    obtain ⟨hsource, htarget⟩ := Conversion.types_of_find? hc
    refine ⟨⟨hsource, harg⟩, ?_⟩
    rw [Assignment.valueType, htarget]
    exact isAssignable_refl _ _
  | helper _ hs =>
    obtain ⟨htakes, hret⟩ := takes_of_answers hr hd hr.helpers (Request.answers_of_mem_select hs)
    exact ⟨⟨htakes, harg⟩, hret⟩
  | @twoMethods inner outer hstep hne hi ho =>
    have hbetween := wellFormed_returnType hr hi hstep
    obtain ⟨hinner, -⟩ := takes_of_select hr hi
      ⟨hd.source_eq, hd.source, hbetween, hd.context, rfl, rfl⟩
    obtain ⟨houter, hret⟩ := takes_of_select hr ho
      ⟨rfl, hbetween, hd.target, hd.context, hd.required, hd.prefersUpdate⟩
    refine ⟨⟨?_, hinner, harg⟩, hret⟩
    -- a step is not generic, so its result mentions no variable that would be replaced
    rw [valueType_call, substitute_closed _ hbetween]
    exact houter
  | @afterConversion s p c hstep hp hc hs =>
    obtain ⟨hsource, htarget⟩ := Conversion.types_of_find? hc
    -- the method is asked for by the type that it takes, not by that of the value
    have hp := wellFormed_source hr hs hstep hp
    obtain ⟨htakes, hret⟩ := takes_of_select hr hs
      ⟨rfl, hp, hd.target, hd.context, hd.required, hd.prefersUpdate⟩
    refine ⟨⟨?_, hsource, harg⟩, hret⟩
    rw [Assignment.valueType, htarget]
    exact htakes
  | @beforeConversion s c hstep hc hs =>
    have hbetween := wellFormed_returnType hr hs hstep
    obtain ⟨hsource, htarget⟩ := Conversion.types_of_find? hc
    obtain ⟨htakes, -⟩ := takes_of_select hr hs
      ⟨hd.source_eq, hd.source, hbetween, hd.context, hd.required, hd.prefersUpdate⟩
    refine ⟨⟨?_, htakes, harg⟩, ?_⟩
    · rw [hsource, valueType_call, substitute_closed _ hbetween]
    · rw [Assignment.valueType, htarget]
      exact isAssignable_refl _ _

/-- Whatever resolution answers is well typed and fits the target, if no particular family and no
update is asked for, and the types and methods are well-formed. -/
theorem resolve_wellTyped {value : SourceValue} {presence : Presence} {target : Ty}
    {criteria : Criteria} {context : List Parameter} {a : Assignment} (hr : resolver.WellFormed)
    (hsource : resolver.table.wellFormed [] value.ty = true)
    (htarget : resolver.table.wellFormed [] target = true)
    (hcontext : ∀ p ∈ context, resolver.table.wellFormed [] p.ty = true)
    (hrequired : criteria.required = {}) (hupdate : criteria.prefersUpdate = false)
    (h : resolver.resolve value presence target criteria context = .ok a) :
    a.WellTyped resolver.table context ∧
      resolver.table.isAssignable a.valueType target = true := by
  have hd : resolver.Creates value.ty { source := some value.ty, target, criteria, context } :=
    ⟨rfl, hsource, htarget, hcontext, hrequired, hupdate⟩
  have harg : (Assignment.direct value presence).WellTyped resolver.table context := trivial
  exact (resolve_way h).wellTyped hr hd rfl harg

end Resolver

/-! ## A mapper of parcels -/

namespace Parcel

/-- A crate is a box, whatever it holds. -/
def classes : ClassTable := .declareAll {} [
  (ClassDecl.plain "shop.Box").generic ["T"] [],
  (ClassDecl.plain "shop.Crate").generic ["U"] ["shop.Box<U>"],
  .plain "shop.Item"]

/-- Orders are packed into crates, and any box can be unpacked. -/
def resolver : Resolver where
  table := classes
  mapper := .named "shop.Mapper"
  candidates := [
    { name := "pack"
      parameters := [{ name := "order", ty := .named "shop.Order" }]
      returnType := .declared "shop.Crate" [.named "shop.Item"]
      owner := some (.named "shop.Mapper") },
    { name := "unpack"
      parameters := [{ name := "box", ty := .declared "shop.Box" [.typeVar "T"] }]
      returnType := .typeVar "T"
      typeParameters := ["T"]
      owner := some (.named "shop.Mapper") }]

def order : SourceValue := .ofParameter "order" (.named "shop.Order")

theorem resolver_wellFormed : resolver.WellFormed where
  supertypes := by decide +kernel
  candidates := by
    intro c hc
    simp only [resolver, List.mem_cons, List.not_mem_nil, or_false] at hc
    rcases hc with rfl | rfl <;> exact ⟨by decide +kernel, by decide +kernel⟩
  helpers := by
    intro c hc
    simp only [resolver, Candidate.helpers, List.mem_cons, List.not_mem_nil, or_false] at hc
    rcases hc with rfl | rfl <;> exact ⟨by decide +kernel, by decide +kernel⟩

/-- An item is unpacked from the crate that an order is packed into. -/
theorem resolve_wellTyped_unpack : resolver.WellFormed ∧
    classes.wellFormed [] order.ty = true ∧ classes.wellFormed [] (.named "shop.Item") = true ∧
    ∃ a, resolver.resolve order .unchecked (.named "shop.Item") {} [] = .ok a ∧
      a.type = .mappedTwice ∧ a.WellTyped classes [] ∧
      classes.isAssignable a.valueType (.named "shop.Item") = true := by
  have horder : classes.wellFormed [] order.ty = true := by decide +kernel
  have hitem : classes.wellFormed [] (.named "shop.Item") = true := by decide +kernel
  have hok : ∃ a, resolver.resolve order .unchecked (.named "shop.Item") {} [] = .ok a ∧
      a.type = .mappedTwice := ⟨_, rfl, rfl⟩
  obtain ⟨a, ha, htype⟩ := hok
  refine ⟨resolver_wellFormed, horder, hitem, a, ha, htype, ?_⟩
  exact Resolver.resolve_wellTyped resolver_wellFormed horder hitem (by simp) rfl rfl ha

end Parcel

end BeanMapper
