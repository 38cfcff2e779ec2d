import BeanMapper.Proofs.Resolution.Unrequested

/-!
# Mappers and methods that they do not ask for

A generator uses the methods that can be called in four ways: it resolves values, and it looks for
factories, callbacks and presence checks. A method with qualifiers that no one asks for has no
influence on any of them, so it has none on the draft of a method whose mappings do not ask for it
(`Generator.draft_inserted`), and none on the mapper that is generated (`MapperDecl.generate_adds`).
-/

namespace BeanMapper

/-! ## What the mappings of a method ask for -/

/-- The qualifiers that the mappings of a method ask for, in one list for each mapping. -/
def MethodOptions.requested (options : MethodOptions) : List (List String) :=
  options.mappings.map PropertyOptions.qualifiers ++
    [options.element.qualifiers, options.key.qualifiers, options.value.qualifiers]

/-- A mapping of the method asks for qualifiers, and the candidate has them all. -/
def MethodOptions.AsksFor (options : MethodOptions) (candidate : Candidate) : Prop :=
  ∃ qualifiers ∈ options.requested, qualifiers ≠ [] ∧ ∀ q ∈ qualifiers, q ∈ candidate.qualifiers

instance (options : MethodOptions) (candidate : Candidate) :
    Decidable (options.AsksFor candidate) :=
  inferInstanceAs (Decidable (∃ qualifiers ∈ options.requested,
    qualifiers ≠ [] ∧ ∀ q ∈ qualifiers, q ∈ candidate.qualifiers))

section Insertion

variable {f : Nat → Nat} {place : Nat} {unasked : Candidate} {others : List Candidate}

namespace MethodOptions

variable {options : MethodOptions}

theorem not_asksFor_of_mem (hasks : ¬options.AsksFor unasked) {criteria : Criteria}
    (hmem : criteria.qualifiers ∈ options.requested) : ¬criteria.AsksFor unasked :=
  fun h => hasks ⟨criteria.qualifiers, hmem, h⟩

theorem not_asksFor_explicit (hasks : ¬options.AsksFor unasked) (target : String)
    (resultType : Option Ty) :
    ¬Criteria.AsksFor
      { qualifiers := ((options.mappingFor? target).map PropertyOptions.qualifiers).getD []
        resultType } unasked := by
  cases hm : options.mappingFor? target with
  | none => exact Criteria.not_asksFor_of_nil rfl unasked
  | some mapping =>
    refine not_asksFor_of_mem hasks (List.mem_append_left _ ?_)
    exact List.mem_map_of_mem (List.mem_of_find?_eq_some hm)

end MethodOptions

theorem Source.checked_inserted {resolver : Resolver}
    (h : Inserted f place unasked resolver.candidates others) (hq : unasked.qualifiers ≠ [])
    (context : List Parameter) (source : Source) :
    source.checked (resolver.withCandidates others) context = source.checked resolver context := by
  rw [checked, Resolver.presenceCheck_inserted h hq]
  rfl

/-! ## New instances and callbacks -/

namespace Generator

def withCandidates (generator : Generator) (others : List Candidate) : Generator :=
  { generator with candidates := others }

variable {generator : Generator} (h : Inserted f place unasked generator.candidates others)
  (hq : unasked.qualifiers ≠ [])

include h hq

theorem creation_inserted (result : Ty) (source : Option Ty) (context : List Parameter) :
    (generator.withCandidates others).creation result source context =
      generator.creation result source context := by
  have hfactory : (generator.withCandidates others).factory result source context =
      generator.factory result source context :=
    Resolver.factory_inserted h hq result source context
  rw [creation, hfactory]
  rfl

theorem complete_inserted (method : Method) (source : Option Ty) (creation : Creation)
    (nullValueMapping : NullValueMapping) (body : MethodBody) :
    (generator.withCandidates others).complete method source creation nullValueMapping body =
      generator.complete method source creation nullValueMapping body := by
  have hcallbacks (timing : Timing) :
      (generator.withCandidates others).callbacks timing source method.resultType method.contexts =
        generator.callbacks timing source method.resultType method.contexts :=
    Resolver.callbacks_inserted h hq timing source method.resultType method.contexts
  simp only [complete, hcallbacks]

/-! ## Beans -/

theorem propertyAssignment_inserted (method : Method) (target : Property) {criteria : Criteria}
    (source : Source) (hasks : ¬criteria.AsksFor unasked) :
    (generator.withCandidates others).propertyAssignment method target criteria source =
      generator.propertyAssignment method target criteria source :=
  congrArg (Except.mapError (propertyMessage source.value target))
    (Resolver.resolve_inserted h hq source.value source.presence target.ty criteria method.contexts
      hasks)

theorem propertyMapping_inserted (method : Method) (target : Property)
    (hasks : ¬method.options.AsksFor unasked) (source : Source) :
    (generator.withCandidates others).propertyMapping method target
        (method.options.mappingFor? target.name) source =
      generator.propertyMapping method target (method.options.mappingFor? target.name) source := by
  have hassignment (resultType : Option Ty) :=
    propertyAssignment_inserted h hq method target source
      (MethodOptions.not_asksFor_explicit hasks target.name resultType)
  have hfallback (text : String) :=
    propertyAssignment_inserted h hq method target (.ofText text)
      (Resolver.mapping_not_asksFor unasked)
  simp only [propertyMapping, hassignment, hfallback]
  rfl

theorem outcome_inserted (method : Method) (hasks : ¬method.options.AsksFor unasked)
    (beans : List SourceBean) (target : Property) :
    (generator.withCandidates others).outcome method beans target =
      generator.outcome method beans target := by
  have hchecked (source : Source) :
      source.checked (generator.withCandidates others).toResolver method.contexts =
        source.checked generator.toResolver method.contexts :=
    Source.checked_inserted h hq method.contexts source
  simp only [outcome, hchecked, propertyMapping_inserted h hq method target hasks]
  rfl

theorem bean_inserted (method : Method) (hasks : ¬method.options.AsksFor unasked) :
    (generator.withCandidates others).bean method = generator.bean method := by
  have houtcome : (generator.withCandidates others).outcome method = generator.outcome method := by
    funext beans target
    exact outcome_inserted h hq method hasks beans target
  simp only [bean, houtcome, creation_inserted h hq, complete_inserted h hq]
  rfl

/-! ## Containers -/

theorem partMapping_inserted (method : Method) (position : ElementPosition)
    {options : ElementOptions} (hasks : ¬(Criteria.ofElement options).AsksFor unasked)
    (expression : String) (source result : Ty) :
    (generator.withCandidates others).partMapping method position options expression source result =
      generator.partMapping method position options expression source result := by
  have hresolve : (generator.withCandidates others).resolve (.ofParameter expression source)
        .unchecked result (.ofElement options) method.contexts =
      generator.resolve (.ofParameter expression source) .unchecked result (.ofElement options)
        method.contexts :=
    Resolver.resolve_inserted h hq _ _ _ _ _ hasks
  rw [partMapping, hresolve]
  rfl

theorem containerCreation_inserted (method : Method) (source : Ty) :
    (generator.withCandidates others).containerCreation method source =
      generator.containerCreation method source := by
  rw [containerCreation, creation_inserted h hq]
  rfl

theorem iterable_inserted (method : Method) (hasks : ¬method.options.AsksFor unasked)
    (source : Parameter) :
    (generator.withCandidates others).iterable method source =
      generator.iterable method source := by
  have helement : ¬(Criteria.ofElement method.options.element).AsksFor unasked :=
    MethodOptions.not_asksFor_of_mem hasks (by simp [MethodOptions.requested, Criteria.ofElement])
  simp only [iterable, partMapping_inserted h hq method .element helement,
    containerCreation_inserted h hq, complete_inserted h hq]
  rfl

theorem map_inserted (method : Method) (hasks : ¬method.options.AsksFor unasked)
    (source : Parameter) :
    (generator.withCandidates others).map method source = generator.map method source := by
  have hkey : ¬(Criteria.ofElement method.options.key).AsksFor unasked :=
    MethodOptions.not_asksFor_of_mem hasks (by simp [MethodOptions.requested, Criteria.ofElement])
  have hvalue : ¬(Criteria.ofElement method.options.value).AsksFor unasked :=
    MethodOptions.not_asksFor_of_mem hasks (by simp [MethodOptions.requested, Criteria.ofElement])
  simp only [map, partMapping_inserted h hq method .key hkey,
    partMapping_inserted h hq method .value hvalue, containerCreation_inserted h hq,
    complete_inserted h hq]
  rfl

/-! ## Drafts -/

/-- A method with qualifiers that are not asked for has no influence on the draft of another. -/
theorem draft_inserted (method : Method) (hasks : ¬method.options.AsksFor unasked) :
    (generator.withCandidates others).draft method = generator.draft method := by
  have hsound : (generator.withCandidates others).draftSound method =
      generator.draftSound method := by
    simp only [draftSound, map_inserted h hq method hasks, iterable_inserted h hq method hasks,
      bean_inserted h hq method hasks]
    rfl
  simp only [draft, hsound]
  rfl

end Generator

end Insertion

/-! ## Mappers -/

namespace MapperDecl

/-- A mapping of a method to generate asks for qualifiers, and the candidate has them all. -/
def AsksFor (mapper : MapperDecl) (candidate : Candidate) : Prop :=
  ∃ method ∈ mapper.abstractMethods, method.options.AsksFor candidate

instance (mapper : MapperDecl) (candidate : Candidate) : Decidable (mapper.AsksFor candidate) :=
  inferInstanceAs (Decidable (∃ method ∈ mapper.abstractMethods, method.options.AsksFor candidate))

/-- The second mapper is the first with one more method, which it declares itself or which is one of
a mapper that it uses. -/
inductive Adds (added : Method) : MapperDecl → MapperDecl → Prop where
  | own (mapper : MapperDecl) (before after : List Method)
    (h : mapper.methods = before ++ after) :
    Adds added mapper { mapper with methods := before ++ added :: after }
  | used (mapper : MapperDecl) (first rest : List UsedMapper) (user : UsedMapper)
    (before after : List Method) (hlisted : mapper.usedMappers = first ++ user :: rest)
    (h : user.methods = before ++ after) :
    Adds added mapper
      { mapper with
        usedMappers := first ++ { user with methods := before ++ added :: after } :: rest }

variable {mapper other : MapperDecl} {added : Method}

theorem Adds.candidates (h : Adds added mapper other) :
    ∃ before after, mapper.candidates = before ++ after ∧
      other.candidates = before ++ added.candidate :: after := by
  cases h with
  | own before after h =>
    refine ⟨before.map Method.candidate,
      (after ++ mapper.usedMappers.flatMap UsedMapper.methods).map Method.candidate, ?_, ?_⟩
    · simp only [MapperDecl.candidates, h, List.map_append, List.append_assoc]
    · simp only [MapperDecl.candidates, List.map_append, List.map_cons, List.append_assoc,
        List.cons_append]
  | used first rest user before after hlisted h =>
    refine ⟨(mapper.methods ++ (first.flatMap UsedMapper.methods ++ before)).map Method.candidate,
      (after ++ rest.flatMap UsedMapper.methods).map Method.candidate, ?_, ?_⟩
    · simp only [MapperDecl.candidates, hlisted, h, List.flatMap_append, List.flatMap_cons,
        List.map_append, List.append_assoc]
    · simp only [MapperDecl.candidates, List.flatMap_append, List.flatMap_cons, List.map_append,
        List.map_cons, List.append_assoc, List.cons_append]

theorem Adds.abstractMethods_eq (h : Adds added mapper other) (himplemented : ¬added.isAbstract) :
    other.abstractMethods = mapper.abstractMethods := by
  cases h with
  | own before after h =>
    simp only [abstractMethods, h, List.filter_append, List.filter_cons_of_neg himplemented]
  | used => rfl

theorem Adds.generator_eq (h : Adds added mapper other) (table : ClassTable) (settings : Settings) :
    other.generator table settings =
      (mapper.generator table settings).withCandidates other.candidates := by
  cases h <;> rfl

/-- **A method that no one asks for has no influence.** An implemented method with qualifiers that
no mapping asks for, at whatever place it is added, leaves the generated mapper as it is: its
methods and all that they call and import, and the reports. -/
theorem generate_adds (h : Adds added mapper other) (himplemented : ¬added.isAbstract)
    (hq : added.qualifiers ≠ []) (hasks : ¬mapper.AsksFor added.candidate) (table : ClassTable)
    (settings : Settings) : other.generate table settings = mapper.generate table settings := by
  obtain ⟨before, after, hmapper, hother⟩ := h.candidates
  obtain ⟨f, place, hinserted⟩ := exists_inserted added.candidate before after
  rw [← hmapper, ← hother] at hinserted
  have hdraft (method : Method) (hmem : method ∈ mapper.abstractMethods) :
      (other.generator table settings).draft method =
        (mapper.generator table settings).draft method := by
    rw [h.generator_eq]
    exact Generator.draft_inserted hinserted hq method fun hmethod => hasks ⟨method, hmem, hmethod⟩
  simp only [generate, h.abstractMethods_eq himplemented, List.map_congr_left hdraft]
  cases h <;> rfl

end MapperDecl

/-! ## Parcels that are not wrapped -/

namespace Shipping

/-- An order has an item, and a parcel has it in a box. -/
def classes : ClassTable := .declareAll {} [.plain "shop.Item", .plain "shop.Box",
  { ClassDecl.plain "shop.Order" with properties := [{ name := "item", typeText := "shop.Item" }] },
  { ClassDecl.plain "shop.Parcel" with properties := [{ name := "item", typeText := "shop.Box" }] }]

/-- Makes a parcel of an order; its box has to be a light one. -/
def method : Method where
  name := "toParcel"
  parameters := [{ name := "order", ty := .named "shop.Order" }]
  returnType := .named "shop.Parcel"
  owner := .named "shop.ParcelMapper"
  options := { mappings := [{ target := "item", qualifiers := ["light"] }] }

/-- A method that puts an item into a box of some kind. -/
def packer (name qualifier : String) : Method where
  name := name
  parameters := [{ name := "item", ty := .named "shop.Item" }]
  returnType := .named "shop.Box"
  qualifiers := [qualifier]
  owner := .named "shop.Packing"
  isAbstract := false

def mapper (packers : List Method) : MapperDecl where
  ty := .named "shop.ParcelMapper"
  methods := [method]
  usedMappers := [{ ty := .named "shop.Packing", methods := packers }]

/-- Whether the packing can wrap an item for a heavy box does not matter: it is packed. -/
theorem generate_adds_wrap :
    MapperDecl.Adds (packer "wrap" "heavy") (mapper [packer "pack" "light"])
      (mapper [packer "wrap" "heavy", packer "pack" "light"]) ∧
    ¬(packer "wrap" "heavy").isAbstract ∧ (packer "wrap" "heavy").qualifiers ≠ [] ∧
    ¬(mapper [packer "pack" "light"]).AsksFor (packer "wrap" "heavy").candidate ∧
    (mapper [packer "wrap" "heavy", packer "pack" "light"]).generate classes {} =
      (mapper [packer "pack" "light"]).generate classes {} ∧
    ((mapper [packer "wrap" "heavy", packer "pack" "light"]).generate classes {}).calls.map
      Call.name = ["pack"] := by
  have hadds : MapperDecl.Adds (packer "wrap" "heavy") (mapper [packer "pack" "light"])
      (mapper [packer "wrap" "heavy", packer "pack" "light"]) :=
    .used (mapper [packer "pack" "light"]) [] [] _ [] [packer "pack" "light"] rfl rfl
  have himplemented : ¬(packer "wrap" "heavy").isAbstract := by decide
  have hq : (packer "wrap" "heavy").qualifiers ≠ [] := by decide
  have hasks : ¬(mapper [packer "pack" "light"]).AsksFor (packer "wrap" "heavy").candidate := by
    decide
  have heq := MapperDecl.generate_adds hadds himplemented hq hasks classes {}
  refine ⟨hadds, himplemented, hq, hasks, heq, ?_⟩
  rw [heq]
  decide +kernel

end Shipping

end BeanMapper
