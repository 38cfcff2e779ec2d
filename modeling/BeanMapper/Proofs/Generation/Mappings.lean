import BeanMapper.Proofs.Assignment.Parts
import BeanMapper.Proofs.Generation.Outcomes
import BeanMapper.Proofs.Resolution.Ways

/-!
# Property mappings of generated methods

Where a property mapping of a generated bean method comes from: a writable property, a source, the
assignment that resolution answers for them, and the wrapper around it (`mapped_of_mem`). However
the value is obtained, at the bottom of the assignment is the source that has been asked for, and a
default value comes from a constant.
-/

namespace BeanMapper

/-! ## The source at the bottom -/

theorem Resolver.Way.source?_eq {resolver : Resolver} {source : Ty} {demand : Demand}
    {argument a : Assignment} (h : Way resolver source demand argument a) :
    a.source? = argument.source? := by
  cases h <;> rfl

theorem Resolver.source?_of_resolve {resolver : Resolver} {value : SourceValue}
    {presence : Presence} {target : Ty} {criteria : Criteria} {context : List Parameter}
    {a : Assignment} (h : resolver.resolve value presence target criteria context = .ok a) :
    a.source? = some (value, presence) := (resolve_way h).source?_eq

namespace Wrapping

variable (wrapping : Wrapping) (assignment : Assignment) (fallback : Option Assignment)

theorem wrap_container (h : wrapping.table.isContainer wrapping.target.ty = true) :
    wrapping.wrap assignment fallback = wrapping.container assignment := by
  rw [wrap, if_pos h]

theorem wrap_plain (h : wrapping.table.isContainer wrapping.target.ty = false) :
    wrapping.wrap assignment fallback = wrapping.plain assignment fallback := by
  rw [wrap, h]; rfl

theorem source?_wrap : (wrapping.wrap assignment fallback).source? = assignment.source? := by
  unfold wrap container
  split
  · dsimp only
    repeat' split
    all_goals rfl
  · rfl

theorem type_wrap : (wrapping.wrap assignment fallback).type = assignment.type := by
  unfold wrap container
  split
  · dsimp only
    repeat' split
    all_goals rfl
  · rfl

end Wrapping

namespace Generator

variable {generator : Generator} {method : Method} {generated : GeneratedMethod}
  {mappings : List PropertyMapping} {mapping : PropertyMapping} {target : Property}
  {explicit : Option PropertyOptions} {source : Source} {assignment : Assignment}
  {fallback : Option Assignment}

/-! ## Mappings -/

theorem Mapped.source?_assignment
    (h : Mapped generator method target explicit source mapping assignment fallback) :
    assignment.source? = some (source.value, source.presence) := by
  obtain ⟨criteria, hresolved⟩ := h.resolved
  exact Resolver.source?_of_resolve hresolved

theorem Mapped.source?_mapping
    (h : Mapped generator method target explicit source mapping assignment fallback) :
    mapping.assignment.source? = some (source.value, source.presence) := by
  rw [h.assignment_eq, Wrapping.source?_wrap, h.source?_assignment]

theorem Mapped.isConstant_fallback
    (h : Mapped generator method target explicit source mapping assignment fallback)
    {other : Assignment} (ho : fallback = some other) : other.isConstant = true := by
  obtain ⟨text, -, hresolved⟩ := h.fallback_resolved other ho
  exact Assignment.isConstant_eq (Resolver.source?_of_resolve hresolved)

/-- A default value is resolved, and handed to the choice of a wrapper. -/
theorem fallback_of_propertyMapping {text : String}
    (h : generator.propertyMapping method target explicit source = .ok mapping)
    (hdefault : explicit.bind PropertyOptions.defaultValue = some text) :
    ∃ assignment fallback,
      generator.resolve (Source.ofText text).value .unchecked target.ty .mapping method.contexts =
        .ok fallback ∧
      mapping.assignment =
        (generator.wrappingOf method target explicit source).wrap assignment (some fallback) := by
  unfold propertyMapping at h
  obtain ⟨assignment, -, h⟩ := bind_eq_ok h
  obtain ⟨fallback, hfallback, h⟩ := bind_eq_ok h
  cases h
  rw [hdefault, Option.mapM_some] at hfallback
  obtain ⟨other, hother, hsome⟩ := bind_eq_ok hfallback
  cases hsome
  exact ⟨assignment, other, resolve_of_propertyAssignment hother, rfl⟩

/-- Every property mapping of a drafted method has been made for a writable property, and from the
only source that there is for it. -/
theorem Drafted.origin {beans : List SourceBean} {writable : List Property} {reports : List Report}
    (h : Drafted generator method beans writable reports mappings) (hmem : mapping ∈ mappings) :
    ∃ target ∈ writable, ∃ source checked, mapping.name = target.name ∧
      Source.candidates generator.table beans (method.options.mappingFor? target.name)
        target.name = .ok [source] ∧
      source.checked generator.toResolver method.contexts = .ok checked ∧
      generator.propertyMapping method target (method.options.mappingFor? target.name) checked =
        .ok mapping := by
  rw [h.mappings_eq] at hmem
  obtain ⟨outcome, ho, hmapping⟩ := List.mem_filterMap.1 hmem
  obtain ⟨target, ht, rfl⟩ := List.mem_map.1 ho
  have hfate := h.fate target ht
  revert hfate hmapping
  generalize generator.outcome method beans target = outcome
  intro hmapping hfate
  cases hfate with
  | mapped _ hsource hchecked hmade =>
    cases hmapping
    obtain ⟨assignment, fallback, hmapped⟩ := propertyMapping_mapped hmade
    exact ⟨target, ht, _, _, hmapped.name_eq, hsource, hchecked, hmade⟩
  | _ => cases hmapping

/-- Every property mapping of a generated bean method has been made for a property from a source,
as the explicit mapping of its name says. -/
theorem propertyMapping_of_mem (hg : (generator.draft method).method = some generated)
    (hb : generated.body = .bean mappings) (hmem : mapping ∈ mappings) :
    ∃ target source, generator.propertyMapping method target
      (method.options.mappingFor? mapping.name) source = .ok mapping := by
  rw [draft_eq_bean hg hb] at hg
  obtain ⟨beans, writable, h⟩ := bean_drafted hg hb
  obtain ⟨target, -, -, source, hname, -, -, hmade⟩ := h.origin hmem
  exact ⟨target, source, hname ▸ hmade⟩

/-- Every property mapping of a generated bean method maps a source to a property. -/
theorem mapped_of_mem (hg : (generator.draft method).method = some generated)
    (hb : generated.body = .bean mappings) (hmem : mapping ∈ mappings) :
    ∃ target source assignment fallback, Mapped generator method target
      (method.options.mappingFor? mapping.name) source mapping assignment fallback := by
  obtain ⟨target, source, hmapping⟩ := propertyMapping_of_mem hg hb hmem
  exact ⟨target, source, propertyMapping_mapped hmapping⟩

end Generator

end BeanMapper
