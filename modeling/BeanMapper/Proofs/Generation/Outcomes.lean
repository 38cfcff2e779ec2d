import BeanMapper.Generation.Drafting

/-!
# Outcomes of properties

A bean method is generated only if nothing is wrong with any of its properties. `Fate` lists what
can then have become of a property, each with all that led there; `bean_drafted` says that every
writable property of a generated method has one of these fates, and that the mappings of the method
are those of the mapped ones, in order. What a generated method of any kind is completed from is
said by `bean_made`, `iterable_made` and `map_made`.
-/

namespace BeanMapper.Generator

/-! ## Answers without an error -/

theorem bind_eq_ok {α β ε : Type} {made : Except ε α} {next : α → Except ε β} {b : β}
    (h : made >>= next = .ok b) : ∃ a, made = .ok a ∧ next a = .ok b := by
  cases made with
  | error e => cases h
  | ok a => exact ⟨a, rfl, h⟩

theorem mapError_eq_ok {α β ε : Type} {f : ε → β} {made : Except ε α} {a : α}
    (h : made.mapError f = .ok a) : made = .ok a := by
  cases made with
  | error e => cases h
  | ok b => cases h; rfl

theorem mapM_option_ok {α β ε : Type} {f : α → Except ε β} {x : Option α} {y : Option β}
    (h : x.mapM f = .ok y) :
    (x = none → y = none) ∧ ∀ b, y = some b → ∃ a, x = some a ∧ f a = .ok b := by
  cases x with
  | none => cases h; exact ⟨fun _ => rfl, fun b hb => by cases hb⟩
  | some a =>
    simp only [Option.mapM_some, Functor.map, Except.map] at h
    split at h <;> cases h
    rename_i b hb
    refine ⟨fun hn => (by cases hn), fun c hc => ?_⟩
    cases hc
    exact ⟨a, rfl, hb⟩

theorem both_eq_ok {α β : Type} {a : Except Message α} {b : Except Message β} {pair : α × β}
    (h : both a b = .ok pair) : a = .ok pair.1 ∧ b = .ok pair.2 := by
  cases a with
  | error message => cases b <;> cases h
  | ok first =>
    cases b with
    | error message => cases h
    | ok second =>
      cases h
      exact ⟨rfl, rfl⟩

/-! ## Fates -/

/-- The fates of a writable property that nothing is wrong with. -/
inductive Fate (generator : Generator) (method : Method) (beans : List SourceBean)
    (target : Property) : Outcome → Prop where
  | ignored
    (hi : (method.options.mappingFor? target.name).any PropertyOptions.ignore = true) :
    Fate generator method beans target { name := target.name }
  | mapped {source checked : Source} {mapping : PropertyMapping}
    (hi : (method.options.mappingFor? target.name).any PropertyOptions.ignore = false)
    (hs : Source.candidates generator.table beans (method.options.mappingFor? target.name)
      target.name = .ok [source])
    (hc : source.checked generator.toResolver method.contexts = .ok checked)
    (hm : generator.propertyMapping method target (method.options.mappingFor? target.name)
      checked = .ok mapping) :
    Fate generator method beans target
      { name := target.name, mapping := some mapping, used := source.property.toList }
  | unprovided
    (hi : (method.options.mappingFor? target.name).any PropertyOptions.ignore = false)
    (hs : Source.candidates generator.table beans (method.options.mappingFor? target.name)
      target.name = .ok []) :
    Fate generator method beans target
      { name := target.name, isUnmapped := (method.options.mappingFor? target.name).isNone }

variable {generator : Generator} {method : Method} {beans : List SourceBean} {target : Property}

/-! ## One property -/

def propertyOptions (generator : Generator) (method : Method) (name : String) : Options :=
  generator.options
    (((method.options.mappingFor? name).map PropertyOptions.options).toList ++
      [method.options.options])

/-- All that the wrapper around the assignment of a property depends on. -/
def wrappingOf (generator : Generator) (method : Method) (target : Property)
    (explicit : Option PropertyOptions) (source : Source) : Wrapping where
  table := generator.table
  options :=
    generator.options ((explicit.map PropertyOptions.options).toList ++ [method.options.options])
  target
  isUpdate := method.isUpdate
  thrownTypes := method.thrownTypes
  isNullable := source.value.isNullable
  isGuarded := source.presence.isChecked || source.value.isNested

/-- What the mapping of a source to a property is made of: the assignment of the source, that of the
default value if there is one, and the wrapper around them. -/
structure Mapped (generator : Generator) (method : Method) (target : Property)
    (explicit : Option PropertyOptions) (source : Source) (mapping : PropertyMapping)
    (assignment : Assignment) (fallback : Option Assignment) : Prop where
  name_eq : mapping.name = target.name
  targetType_eq : mapping.targetType = target.ty
  isReadable_eq : mapping.readAccessor.isSome = target.isReadable
  resolved : ∃ criteria, generator.resolve source.value source.presence target.ty criteria
    method.contexts = .ok assignment
  fallback_none : explicit.bind PropertyOptions.defaultValue = none → fallback = none
  fallback_resolved : ∀ other, fallback = some other → ∃ text,
    explicit.bind PropertyOptions.defaultValue = some text ∧
      generator.resolve (Source.ofText text).value .unchecked target.ty .mapping
        method.contexts = .ok other
  assignment_eq :
    mapping.assignment = (generator.wrappingOf method target explicit source).wrap assignment fallback

theorem resolve_of_propertyAssignment {criteria : Criteria} {source : Source} {a : Assignment}
    (h : generator.propertyAssignment method target criteria source = .ok a) :
    generator.resolve source.value source.presence target.ty criteria method.contexts = .ok a :=
  mapError_eq_ok h

/-- A source is resolved for a property by asking for mapping methods. -/
theorem propertyMapping_made {explicit : Option PropertyOptions} {source : Source}
    {mapping : PropertyMapping}
    (h : generator.propertyMapping method target explicit source = .ok mapping) :
    ∃ criteria assignment fallback, criteria.required = {} ∧
      generator.resolve source.value source.presence target.ty criteria method.contexts =
        .ok assignment ∧
      Mapped generator method target explicit source mapping assignment fallback := by
  unfold propertyMapping at h
  obtain ⟨assignment, hassignment, h⟩ := bind_eq_ok h
  obtain ⟨fallback, hfallback, h⟩ := bind_eq_ok h
  cases h
  have hresolved := resolve_of_propertyAssignment hassignment
  obtain ⟨hnone, hsome⟩ := mapM_option_ok hfallback
  refine ⟨_, assignment, fallback, ?_, hresolved, rfl, rfl, ?_, ⟨_, hresolved⟩, hnone,
    fun other ho => ?_, rfl⟩
  · rfl
  · dsimp only
    cases target.isReadable <;> rfl
  · obtain ⟨text, htext, hother⟩ := hsome other ho
    exact ⟨text, htext, resolve_of_propertyAssignment hother⟩

theorem propertyMapping_mapped {explicit : Option PropertyOptions} {source : Source}
    {mapping : PropertyMapping}
    (h : generator.propertyMapping method target explicit source = .ok mapping) :
    ∃ assignment fallback,
      Mapped generator method target explicit source mapping assignment fallback := by
  obtain ⟨-, assignment, fallback, -, -, hmapped⟩ := propertyMapping_made h
  exact ⟨assignment, fallback, hmapped⟩

/-! ## The fate of a property -/

theorem outcome_fate (h : (generator.outcome method beans target).fault = none) :
    Fate generator method beans target (generator.outcome method beans target) := by
  revert h
  unfold outcome
  dsimp only
  split
  · intro _
    exact .ignored ‹_›
  · rename_i hi
    have hi := eq_false_of_ne_true hi
    split
    · intro h; cases h
    · intro _
      exact .unprovided hi ‹_›
    · split
      · intro h; cases h
      · split
        · intro h; cases h
        · intro _
          exact .mapped hi ‹_› ‹_› ‹_›
    · intro h; cases h

/-! ## Drafts of bean methods -/

/-- What a generated bean method has been made from. -/
structure Drafted (generator : Generator) (method : Method) (beans : List SourceBean)
    (writable : List Property) (reports : List Report) (mappings : List PropertyMapping) :
    Prop where
  beans_eq : beansOf generator.table method = .ok (beans, writable)
  explicit : explicitFaults method.resultType writable [] method.options.mappings = []
  fate : ∀ target ∈ writable,
    Fate generator method beans target (generator.outcome method beans target)
  mappings_eq : mappings =
    (writable.map (generator.outcome method beans)).filterMap Outcome.mapping
  reports_eq : reports =
    policyReports (generator.options [method.options.options]).unmappedTarget
        (generator.elementName method) .unmappedTargets
        (((writable.map (generator.outcome method beans)).filter Outcome.isUnmapped).map
          Outcome.name) ++
      policyReports (generator.options [method.options.options]).unmappedSource
        (generator.elementName method) .unmappedSources
        (unusedSources beans ((writable.map (generator.outcome method beans)).flatMap Outcome.used))

theorem noErrors_of_failed {element : String} {messages : List Message}
    (h : (Draft.failed element messages).reports.any Report.isError = false) : messages = [] := by
  rw [Draft.any_isError_failed] at h
  simpa using h

/-- A generated bean method is completed from the mappings of its properties. The result is given or
created. -/
theorem bean_made {generated : GeneratedMethod}
    (h : (generator.bean method).method = some generated) :
    ∃ beans writable mappings creation,
      Drafted generator method beans writable (generator.bean method).reports mappings ∧
      (creation = .given ∨ generator.creation method.resultType
        (method.sources.head?.map Parameter.ty) method.contexts = .ok creation) ∧
      generated = generator.complete method (method.sources.head?.map Parameter.ty) creation
        (generator.options [method.options.options]).nullValueMapping (.bean mappings) := by
  revert h
  unfold bean
  dsimp only
  split
  · intro h; cases h
  · rename_i beans writable hbeans
    split
    · intro h; cases h
    · rename_i creation hcreation
      intro h
      dsimp only at h
      split at h
      · cases h
      · rename_i hearly
        cases h
        -- past the early faults every explicit mapping is sound, and every property has a fate
        have hearly := eq_false_of_ne_true hearly
        simp only [List.any_append, Bool.or_eq_false_iff] at hearly
        have hnone := noErrors_of_failed hearly.1.1
        obtain ⟨hexplicit, hfaults⟩ := List.append_eq_nil_iff.1 hnone
        refine ⟨beans, writable, _, creation, ⟨hbeans, hexplicit, fun target ht => ?_, rfl, ?_⟩,
          ?_, rfl⟩
        · refine outcome_fate ?_
          have := List.filterMap_eq_nil_iff.1 hfaults
          exact this _ (List.mem_map_of_mem ht)
        · rw [hnone]
          rfl
        · split at hcreation
          · cases hcreation
            exact Or.inl rfl
          · exact Or.inr hcreation

theorem bean_drafted {generated : GeneratedMethod} {mappings : List PropertyMapping}
    (h : (generator.bean method).method = some generated) (hb : generated.body = .bean mappings) :
    ∃ beans writable, Drafted generator method beans writable (generator.bean method).reports
      mappings := by
  obtain ⟨beans, writable, made, creation, hdrafted, -, rfl⟩ := bean_made h
  cases hb
  exact ⟨beans, writable, hdrafted⟩

/-! ## Drafts of container methods -/

/-- A generated method for iterables maps the elements of one container to those of another, in a
loop with a variable for the elements. An array is made with its elements. -/
theorem iterable_made {source : Parameter} {generated : GeneratedMethod}
    (h : generator.iterable method source = .ok generated) :
    ∃ sourceElement resultElement element creation,
      generator.table.elementType? source.ty = some sourceElement ∧
      generator.table.elementType? method.resultType = some resultElement ∧
      generator.partMapping method .element method.options.element
        (loopVariable sourceElement source.name) sourceElement resultElement = .ok element ∧
      (creation = .given ∨ generator.containerCreation method source.ty = .ok creation) ∧
      generated = generator.complete method (some source.ty) creation
        (generator.options [method.options.options]).nullValueIterable
        (.iterable source (loopVariable sourceElement source.name) element) := by
  unfold iterable at h
  dsimp only at h
  split at h
  · cases h
  · split at h
    · cases h
    · split at h
      · rename_i hsource hresult
        obtain ⟨element, helement, h⟩ := bind_eq_ok h
        split at h
        · cases h
          exact ⟨_, _, element, .given, hsource, hresult, mapError_eq_ok helement, Or.inl rfl, rfl⟩
        · obtain ⟨creation, hcreation, h⟩ := bind_eq_ok h
          cases h
          exact ⟨_, _, element, creation, hsource, hresult, mapError_eq_ok helement,
            Or.inr (mapError_eq_ok hcreation), rfl⟩
      · cases h

/-- A generated method for maps maps the keys and the values of one map to those of another. -/
theorem map_made {source : Parameter} {generated : GeneratedMethod}
    (h : generator.map method source = .ok generated) :
    ∃ sourceKey sourceValue resultKey resultValue key value creation,
      generator.table.entryTypes? source.ty = some (sourceKey, sourceValue) ∧
      generator.table.entryTypes? method.resultType = some (resultKey, resultValue) ∧
      generator.partMapping method .key method.options.key "entry.getKey()" sourceKey
        resultKey = .ok key ∧
      generator.partMapping method .value method.options.value "entry.getValue()" sourceValue
        resultValue = .ok value ∧
      generator.containerCreation method source.ty = .ok creation ∧
      generated = generator.complete method (some source.ty) creation
        (generator.options [method.options.options]).nullValueMap (.map source key value) := by
  unfold map at h
  dsimp only at h
  split at h
  · cases h
  · split at h
    · cases h
    · split at h
      · rename_i hsource hresult
        obtain ⟨⟨key, value⟩, hboth, h⟩ := bind_eq_ok h
        obtain ⟨hkey, hvalue⟩ := both_eq_ok hboth
        obtain ⟨creation, hcreation, h⟩ := bind_eq_ok h
        cases h
        exact ⟨_, _, _, _, key, value, creation, hsource, hresult, hkey, hvalue,
          mapError_eq_ok hcreation, rfl⟩
      · cases h

theorem map_body {source : Parameter} {generated : GeneratedMethod}
    (h : generator.map method source = .ok generated) :
    ∃ key value, generated.body = .map source key value := by
  obtain ⟨_, _, _, _, key, value, creation, -, -, -, -, -, rfl⟩ := map_made h
  exact ⟨key, value, rfl⟩

theorem iterable_body {source : Parameter} {generated : GeneratedMethod}
    (h : generator.iterable method source = .ok generated) :
    ∃ name element, generated.body = .iterable source name element := by
  obtain ⟨_, _, element, creation, -, -, -, -, rfl⟩ := iterable_made h
  exact ⟨_, element, rfl⟩

/-! ## Drafts -/

theorem eq_ok_of_ofExcept {element : String} {made : Except (List Message) GeneratedMethod}
    {generated : GeneratedMethod} (h : (Draft.ofExcept element made).method = some generated) :
    made = .ok generated := by
  cases made with
  | ok g => cases h; rfl
  | error messages => cases h

/-- A generated method maps beans, or its only source is an iterable or a map. -/
theorem draft_cases {generated : GeneratedMethod}
    (h : (generator.draft method).method = some generated) :
    generator.draft method = generator.bean method ∨
      ∃ source, method.sources = [source] ∧ (generator.iterable method source = .ok generated ∨
        generator.map method source = .ok generated) := by
  -- a declaration with faults leaves no method
  have hsound : generator.draft method = generator.draftSound method := by
    unfold draft at h ⊢
    cases hf : method.declarationFaults with
    | nil => rfl
    | cons fault faults => rw [hf] at h; cases h
  rw [hsound] at h ⊢
  unfold draftSound at h ⊢
  dsimp only at h ⊢
  split at h
  · rename_i hsources
    split at h
    · exact Or.inr ⟨_, hsources, Or.inr (eq_ok_of_ofExcept h)⟩
    · split at h
      · exact Or.inr ⟨_, hsources, Or.inl (eq_ok_of_ofExcept h)⟩
      · rename_i hmap hseq
        rw [if_neg hmap, if_neg hseq]
        exact Or.inl rfl
  · exact Or.inl rfl

/-- Only bean methods have properties. -/
theorem draft_eq_bean {generated : GeneratedMethod} {mappings : List PropertyMapping}
    (h : (generator.draft method).method = some generated) (hb : generated.body = .bean mappings) :
    generator.draft method = generator.bean method := by
  rcases draft_cases h with hbean | ⟨source, -, hiterable | hmap⟩
  · exact hbean
  · obtain ⟨name, element, hbody⟩ := iterable_body hiterable
    rw [hb] at hbody
    cases hbody
  · obtain ⟨key, value, hbody⟩ := map_body hmap
    rw [hb] at hbody
    cases hbody

end BeanMapper.Generator
