import BeanMapper.Mapper.Generated
import BeanMapper.Proofs.Generation.Mappings
import BeanMapper.Proofs.Simulation.NullFlow

/-!
# Updates from a null source

What a generated update writes to a property whose source is null, unless a default value is given
or null is always checked. Plain properties and containers that are merged in place follow the
strategy for null values of properties (`Honours`). A container that is not merged knows no
strategy: it is written behind a null check and stays as it is. Nothing is said here of such a
container if no check guards it, which is the case where nothing but methods is called on its way,
nor of a merge into a slot that holds no container under the strategy to set a default.
-/

namespace BeanMapper

/-- Whether a property of an update is filled in place if it is a container. -/
def PropertyMapping.merges (mapping : PropertyMapping) (table : ClassTable) (options : Options) :
    Bool :=
  mapping.readAccessor.isSome && !table.isImmutable mapping.targetType &&
    options.collectionMapping != .targetImmutable

namespace Simulation

open Run

/-- What a strategy demands of a slot whose source is null. The default of a collection or map is a
new empty one; a slot that is to be ignored keeps its value, and all containers their contents. -/
def Honours (table : ClassTable) (strategy : NullValueProperty) (ty : Ty) (slot : Value)
    (heap : Heap) (result : Value) (heap' : Heap) : Prop :=
  match strategy with
  | .setToNull => result = .null
  | .setToDefault =>
    if table.isContainer ty = true then IsNewEmpty table ty heap result heap'
    else IsDefault table ty heap result heap'
  | .ignore => result = slot ∧ heap' = heap

namespace Simulator

variable {simulator : Simulator} {slot result : Value} {heap heap' : Heap}
  {assignment : Assignment}

theorem returns_merge_null {guard : Guard} {check : NullValueCheck} {property : NullValueProperty}
    (hcontainer : simulator.table.isContainer guard.target = true) (hcheck : check ≠ .always)
    (hslot : slot ≠ .null ∨ property ≠ .setToDefault)
    (h : Returns (simulator.merge guard check property assignment slot .null) heap result heap') :
    Honours simulator.table property guard.target slot heap result heap' := by
  have hmerges : Assignment.mergesNull check property = (property != .ignore) := by
    simp [Assignment.mergesNull, hcheck]
  unfold merge at h
  rw [hmerges] at h
  -- a slot without a container keeps null, which is what two of the strategies demand
  by_cases hn : slot = .null
  · subst hn
    have hr := returns_pure.1 h
    cases property with
    | setToNull => exact hr.1
    | setToDefault => simp at hslot
    | ignore => exact hr
  · rw [Value.isNull_eq_false hn] at h
    cases property with
    | setToNull => exact (returns_pure.1 h).1
    | setToDefault =>
      simp only [Honours, hcontainer, if_true]
      exact returns_emptyContainer.1 h
    | ignore => exact returns_pure.1 h

theorem returns_set_null {setting : Setting} (hs : setting.checksSource = true)
    (h : Returns (simulator.set setting assignment none slot .null) heap result heap') :
    if setting.resetsToNull then result = .null
    else if setting.resetsToDefault then
      IsDefault simulator.table setting.target heap result heap'
    else result = slot ∧ heap' = heap := by
  simp only [set, hs, Value.isNull, Bool.not_true, Bool.or_self, Bool.false_eq_true, if_false] at h
  by_cases hn : setting.resetsToNull = true
  · rw [if_pos hn] at h ⊢
    exact (returns_pure.1 h).1
  · rw [if_neg hn] at h ⊢
    by_cases hd : setting.resetsToDefault = true
    · rw [if_pos hd] at h ⊢
      exact returns_defaultValue.1 h
    · rw [if_neg hd] at h ⊢
      exact returns_pure.1 h

/-! ## Wrappers -/

variable {wrapping : Wrapping}

theorem returns_plain_null (hsim : simulator.MapsNullToNull) (hc : assignment.isConstant = false)
    (hupdate : wrapping.isUpdate = true) (hnull : wrapping.isNullable = true)
    (hprim : wrapping.target.ty.isPrimitive = false)
    (hplain : simulator.table.isContainer wrapping.target.ty = false)
    (h : Returns (simulator.write slot .null (wrapping.plain assignment none)) heap result heap') :
    Honours simulator.table wrapping.options.nullValueProperty wrapping.target.ty slot heap result
      heap' := by
  rw [Wrapping.plain, write] at h
  cases hs : wrapping.checksSource assignment.type.isConverted false with
  | false =>
    -- An update checks a source that may be null under every strategy but one.
    have hstrategy : wrapping.options.nullValueProperty = .setToNull := by
      simp only [Wrapping.checksSource, hnull, hupdate] at hs
      simp at hs
      exact hs.2.2
    simp only [set, Option.isSome_none, hs, Bool.not_false, Bool.true_or, if_true] at h
    rw [hstrategy]
    exact produce_null hsim hc h
  | true =>
    have h := returns_set_null hs h
    simp only [Option.isSome_none, hs, hupdate, hprim, Option.isNone_none, Bool.and_self,
      Bool.true_and, Bool.not_false, Bool.and_true] at h
    cases hstrategy : wrapping.options.nullValueProperty with
    | setToNull => simpa [hstrategy, Honours] using h
    | setToDefault => simpa [hstrategy, Honours, hplain] using h
    | ignore => simpa [hstrategy, Honours] using h

theorem returns_unmerged_null (hmerges : wrapping.merges = false)
    (hguarded : (assignment.isDirect || wrapping.isGuarded || assignment.type.isConverted) = true)
    (h : Returns (simulator.write slot .null (wrapping.container assignment)) heap result heap') :
    result = slot ∧ heap' = heap := by
  have hchecked : (assignment.isDirect || wrapping.options.nullValueCheck == .always ||
      wrapping.isGuarded || assignment.type.isConverted) = true := by
    simp only [Bool.or_eq_true] at hguarded
    rcases hguarded with (hg | hg) | hg <;> simp [hg]
  rw [Wrapping.container, if_neg (by simp [hmerges]), if_pos hchecked] at h
  exact returns_pure.1 h

theorem returns_merged_null (hmerges : wrapping.merges = true)
    (hcontainer : simulator.table.isContainer wrapping.target.ty = true)
    (hcheck : wrapping.options.nullValueCheck ≠ .always)
    (hslot : slot ≠ .null ∨ wrapping.options.nullValueProperty ≠ .setToDefault)
    (h : Returns (simulator.write slot .null (wrapping.container assignment)) heap result heap') :
    Honours simulator.table wrapping.options.nullValueProperty wrapping.target.ty slot heap result
      heap' := by
  rw [Wrapping.container, if_pos hmerges] at h
  exact returns_merge_null hcontainer hcheck hslot h

/-- What the wrapper of an update writes to a property whose source is null. -/
theorem returns_wrap_null (hsim : simulator.MapsNullToNull) (hc : assignment.isConstant = false)
    (htable : wrapping.table = simulator.table) (hupdate : wrapping.isUpdate = true)
    (hnull : wrapping.isNullable = true) (hprim : wrapping.target.ty.isPrimitive = false)
    (hcheck : wrapping.options.nullValueCheck ≠ .always)
    (h : Returns (simulator.write slot .null (wrapping.wrap assignment none)) heap result heap') :
    if simulator.table.isContainer wrapping.target.ty = true then
      if wrapping.merges = true then
        slot ≠ .null ∨ wrapping.options.nullValueProperty ≠ .setToDefault →
          Honours simulator.table wrapping.options.nullValueProperty wrapping.target.ty slot heap
            result heap'
      else
        (assignment.isDirect || wrapping.isGuarded || assignment.type.isConverted) = true →
          result = slot ∧ heap' = heap
    else Honours simulator.table wrapping.options.nullValueProperty wrapping.target.ty slot heap
      result heap' := by
  rw [← htable]
  split
  · rename_i hcontainer
    rw [Wrapping.wrap_container _ _ _ hcontainer] at h
    rw [htable] at hcontainer ⊢
    split
    · rename_i hmerges
      intro hslot
      exact returns_merged_null hmerges hcontainer hcheck hslot h
    · rename_i hmerges
      intro hguarded
      exact returns_unmerged_null (eq_false_of_ne_true hmerges) hguarded h
  · rename_i hplain
    have hplain := eq_false_of_ne_true hplain
    rw [Wrapping.wrap_plain _ _ _ hplain] at h
    rw [htable] at hplain ⊢
    exact returns_plain_null hsim hc hupdate hnull hprim hplain h

end Simulator

/-! ## Generated updates -/

/-- What a generated update makes of a property whose source is null: a plain property, or a
container that is merged in place, becomes what the strategy demands, and any other container behind
a check stays as it is. -/
theorem write_null_source {mapper : MapperDecl} {table : ClassTable} {settings : Settings}
    {method : Method} {generated : GeneratedMethod} {mappings : List PropertyMapping}
    {mapping : PropertyMapping} {value : SourceValue} {presence : Presence}
    {behavior? : String → Option (Value → Run Value)} {slot result : Value} {heap heap' : Heap}
    {options : Options}
    (hg : ((mapper.generator table settings).draft method).method = some generated)
    (hb : generated.body = .bean mappings) (hmem : mapping ∈ mappings)
    (hupdate : method.isUpdate = true) (hprim : mapping.targetType.isPrimitive = false)
    (hsource : mapping.assignment.source? = some (value, presence))
    (hnull : value.isNullable = true)
    (hdefault : (method.options.mappingFor? mapping.name).bind PropertyOptions.defaultValue = none)
    (hoptions : options = (mapper.generator table settings).propertyOptions method mapping.name)
    (hcheck : options.nullValueCheck ≠ .always)
    (hsim : Simulator.MapsNullToNull ⟨table, behavior?⟩)
    (h : Returns (Simulator.write ⟨table, behavior?⟩ slot .null mapping.assignment) heap result
      heap') :
    if table.isContainer mapping.targetType = true then
      if mapping.merges table options = true then
        slot ≠ .null ∨ options.nullValueProperty ≠ .setToDefault →
          Honours table options.nullValueProperty mapping.targetType slot heap result heap'
      else
        (mapping.assignment.isDirect || presence.isChecked || value.isNested ||
            mapping.assignment.type.isConverted) = true →
          result = slot ∧ heap' = heap
    else Honours table options.nullValueProperty mapping.targetType slot heap result heap' := by
  obtain ⟨target, source, assignment, fallback, hm⟩ := Generator.mapped_of_mem hg hb hmem
  cases hsource.symm.trans hm.source?_mapping
  cases hm.fallback_none hdefault
  have hconstant : assignment.isConstant = false := by
    rw [Assignment.isConstant_eq hm.source?_assignment]
    simp only [SourceValue.isNullable, Bool.and_eq_true] at hnull
    simpa using hnull.1
  have htype : mapping.assignment.type = assignment.type := by
    rw [hm.assignment_eq, Wrapping.type_wrap]
  have hassignment := hm.assignment_eq
  -- the wrapper is told apart from the mapping that it is part of, in the words of both
  generalize hw : (mapper.generator table settings).wrappingOf method target
    (method.options.mappingFor? mapping.name) source = wrapping at hassignment
  have htable : wrapping.table = table := by rw [← hw]; rfl
  have htarget : wrapping.target = target := by rw [← hw]; rfl
  have hopt : wrapping.options = options := by rw [← hw, hoptions]; rfl
  have hup : wrapping.isUpdate = true := by rw [← hw]; exact hupdate
  have hn : wrapping.isNullable = true := by rw [← hw]; exact hnull
  have hguarded : wrapping.isGuarded = (source.presence.isChecked || source.value.isNested) := by
    rw [← hw]; rfl
  have hmerges : mapping.merges table options = wrapping.merges := by
    simp only [PropertyMapping.merges, Wrapping.merges, hm.isReadable_eq, hm.targetType_eq, htable,
      htarget, hopt, hup, Bool.true_and]
  rw [hmerges, Assignment.isDirect, htype, Bool.or_assoc (decide _), ← hguarded]
  rw [hassignment] at h
  rw [hm.targetType_eq, ← htarget] at hprim ⊢
  rw [← hopt] at hcheck ⊢
  exact Simulator.returns_wrap_null hsim hconstant htable hup hn hprim hcheck h

/-! ## A mapper of baskets -/

namespace Basket

/-- Orders and baskets have labels and notes; the notes of a basket cannot be read. -/
def classes : ClassTable := .declareAll {} [
  (ClassDecl.interface Platform.collection).generic [] [Platform.iterable],
  { ClassDecl.plain "shop.Order" with
    properties := [
      { name := "labels", typeText := Platform.collection },
      { name := "notes", typeText := Platform.collection }] },
  { ClassDecl.plain "shop.Basket" with
    properties := [
      { name := "labels", typeText := Platform.collection },
      { name := "notes", typeText := Platform.collection, hasGetter := false }] }]

/-- Fills a basket; labels are set to their default if there are none. -/
def method : Method where
  name := "fill"
  parameters := [
    { name := "order", ty := .named "shop.Order" },
    { name := "basket", ty := .named "shop.Basket", role := .mappingTarget }]
  returnType := .void
  owner := .named "shop.BasketMapper"
  options := {
    mappings := [{ target := "labels", options := { nullValueProperty := some .setToDefault } }] }

def mapper : MapperDecl where
  ty := .named "shop.BasketMapper"
  methods := [method]

def heap : Heap := { lists := [[.text "old"]] }

def simulator : Simulator := { table := classes }

theorem simulator_mapsNullToNull : simulator.MapsNullToNull := by
  intro name behavior heap value heap' hb
  cases hb

/-- Both properties come from sources that may be null. From null sources the labels become a new
list, and the notes stay the list they are. -/
theorem generated_fill : ∃ generated labels notes labelsSource notesSource,
    ((mapper.generator classes {}).draft method).method = some generated ∧
      generated.body = .bean [labels, notes] ∧ labels.name = "labels" ∧ notes.name = "notes" ∧
      labels.targetType = .named Platform.collection ∧
      notes.targetType = .named Platform.collection ∧
      labels.assignment.source? = some (labelsSource, .unchecked) ∧
      labelsSource.isNullable = true ∧
      notes.assignment.source? = some (notesSource, .unchecked) ∧ notesSource.isNullable = true ∧
      labels.merges classes ((mapper.generator classes {}).propertyOptions method "labels") =
        true ∧
      notes.merges classes ((mapper.generator classes {}).propertyOptions method "notes") =
        false ∧ notes.assignment.isDirect = true ∧
      Returns (simulator.write (.list 0) .null labels.assignment) heap (.list 1)
        (heap.newList []).2 ∧
      Returns (simulator.write (.list 0) .null notes.assignment) heap (.list 0) heap :=
  ⟨_, _, _, _, _, rfl, rfl, rfl, rfl, rfl, rfl, rfl, rfl, rfl, rfl, rfl, rfl, rfl, rfl, rfl⟩

/-- The labels become a new empty list, and whatever a run makes of the notes, they are the list
that they were. -/
theorem write_null_source_labels : ∃ generated labels notes source,
    ((mapper.generator classes {}).draft method).method = some generated ∧
      generated.body = .bean [labels, notes] ∧ method.isUpdate = true ∧
      labels.targetType.isPrimitive = false ∧
      labels.assignment.source? = some (source, .unchecked) ∧ source.isNullable = true ∧
      (method.options.mappingFor? labels.name).bind PropertyOptions.defaultValue = none ∧
      ((mapper.generator classes {}).propertyOptions method labels.name).nullValueCheck ≠ .always ∧
      simulator.MapsNullToNull ∧
      Returns (simulator.write (.list 0) .null labels.assignment) heap (.list 1)
        (heap.newList []).2 ∧
      IsNewEmpty classes labels.targetType heap (.list 1) (heap.newList []).2 ∧
      ∀ result heap', Returns (simulator.write (.list 0) .null notes.assignment) heap result heap' →
        result = .list 0 ∧ heap' = heap := by
  obtain ⟨generated, labels, notes, source, notesSource, hg, hb, hname, hnotesName, hty, hnotesTy,
    hsource, hnull, hnotesSource, hnotesNull, hmerges, hnotesMerges, hdirect, hrun, -⟩ :=
      generated_fill
  have hmem : labels ∈ [labels, notes] := by simp
  have hupdate : method.isUpdate = true := by decide
  have hprim : labels.targetType.isPrimitive = false := by rw [hty]; rfl
  have hdefault : (method.options.mappingFor? labels.name).bind PropertyOptions.defaultValue =
      none := by rw [hname]; rfl
  have hcheck : ((mapper.generator classes {}).propertyOptions method
      labels.name).nullValueCheck ≠ .always := by rw [hname]; decide
  have hcontainer : classes.isContainer (.named Platform.collection) = true := by decide +kernel
  have hlabels : IsNewEmpty classes labels.targetType heap (.list 1) (heap.newList []).2 := by
    have h := write_null_source hg hb hmem hupdate hprim hsource hnull hdefault rfl hcheck
      simulator_mapsNullToNull hrun
    have hstrategy : ((mapper.generator classes {}).propertyOptions method
        labels.name).nullValueProperty = .setToDefault := by rw [hname]; rfl
    rw [if_pos (by rw [hty]; exact hcontainer), if_pos (by rw [hname]; exact hmerges)] at h
    have h := h (Or.inl (by simp))
    rwa [hstrategy, Honours, if_pos (by rw [hty]; exact hcontainer)] at h
  refine ⟨generated, labels, notes, source, hg, hb, hupdate, hprim, hsource, hnull, hdefault,
    hcheck, simulator_mapsNullToNull, hrun, hlabels, ?_⟩
  -- the notes cannot be read, so they are not merged, but they are taken as they are
  intro result heap' hnotes
  have h := write_null_source hg hb (by simp) hupdate (by rw [hnotesTy]; rfl) hnotesSource
    hnotesNull (by rw [hnotesName]; rfl) rfl (by rw [hnotesName]; decide) simulator_mapsNullToNull
    hnotes
  rw [if_pos (by rw [hnotesTy]; exact hcontainer),
    if_neg (by rw [hnotesName, hnotesMerges]; simp)] at h
  exact h (by rw [hdirect]; rfl)

/-- The notes are not set to null, although that is the strategy. -/
theorem not_always_honoured : ¬∀ (mapper : MapperDecl) (table : ClassTable) (settings : Settings)
    (method : Method) (generated : GeneratedMethod) (mappings : List PropertyMapping)
    (mapping : PropertyMapping) (value : SourceValue) (presence : Presence)
    (behavior? : String → Option (Value → Run Value)) (slot result : Value) (heap heap' : Heap),
    ((mapper.generator table settings).draft method).method = some generated →
    generated.body = .bean mappings → mapping ∈ mappings → method.isUpdate = true →
    mapping.targetType.isPrimitive = false →
    mapping.assignment.source? = some (value, presence) → value.isNullable = true →
    (method.options.mappingFor? mapping.name).bind PropertyOptions.defaultValue = none →
    ((mapper.generator table settings).propertyOptions method mapping.name).nullValueCheck ≠
      .always →
    Simulator.MapsNullToNull ⟨table, behavior?⟩ →
    Returns (Simulator.write ⟨table, behavior?⟩ slot .null mapping.assignment) heap result heap' →
    Honours table ((mapper.generator table settings).propertyOptions method
      mapping.name).nullValueProperty mapping.targetType slot heap result heap' := by
  intro hall
  obtain ⟨generated, labels, notes, -, source, hg, hb, -, hname, -, hty, -, -, hsource, hnull, -,
    -, -, -, hrun⟩ := generated_fill
  have h := hall mapper classes {} method generated [labels, notes] notes source .unchecked _ _ _ _ _
    hg hb (by simp) (by decide) (by rw [hty]; rfl) hsource hnull (by rw [hname]; rfl)
    (by rw [hname]; decide) simulator_mapsNullToNull hrun
  rw [hname] at h
  cases h

end Basket

end Simulation

end BeanMapper
