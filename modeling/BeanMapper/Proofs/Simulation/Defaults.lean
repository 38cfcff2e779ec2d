import BeanMapper.Mapper.Generated
import BeanMapper.Proofs.Generation.Mappings
import BeanMapper.Proofs.Simulation.Runs
import BeanMapper.Simulation.Writing

/-!
# Default values of properties

The default value that an explicit mapping gives a property is resolved before anything is known of
how the property is written, and a default that cannot be resolved is an error whatever the property
is. A plain property is set, and its setter keeps the default: from a null source it is what the
slot holds (`Simulator.write_plain_default`). A container is guarded, merged or set by a wrapper of
its own, and none of these is handed the default: the mapping is the one that is made without it
(`Generator.propertyMapping_withoutDefault`). `write_default_value` puts both together, and
`Badges.not_always_defaulted` is a badge whose labels stay missing.
-/

namespace BeanMapper

def PropertyOptions.withoutDefault (options : PropertyOptions) : PropertyOptions :=
  { options with defaultValue := none }

namespace Generator

variable {generator : Generator} {method : Method} {target : Property}
  {explicit : Option PropertyOptions} {source : Source} {mapping : PropertyMapping}

/-! ## Mappings with a default -/

/-- A container is mapped as if no default value had been given. -/
theorem propertyMapping_withoutDefault
    (h : generator.propertyMapping method target explicit source = .ok mapping)
    (hcontainer : generator.table.isContainer target.ty = true) :
    generator.propertyMapping method target (explicit.map PropertyOptions.withoutDefault) source =
      .ok mapping := by
  cases explicit with
  | none => exact h
  | some options =>
    unfold propertyMapping at h ⊢
    obtain ⟨assignment, hassignment, h⟩ := bind_eq_ok h
    obtain ⟨fallback, -, h⟩ := bind_eq_ok h
    cases h
    have hwrap := (Wrapping.wrap_container
      (generator.wrappingOf method target (some options) source) assignment none hcontainer).trans
        (Wrapping.wrap_container _ assignment fallback hcontainer).symm
    -- the criteria and the options of the wrapper are the same without the default
    have hassigned : generator.propertyAssignment method target
        { qualifiers := options.qualifiers, resultType := options.resultType } source =
          .ok assignment := hassignment
    change (generator.propertyAssignment method target
      { qualifiers := options.qualifiers, resultType := options.resultType } source >>= _) = _
    rw [hassigned]
    refine congrArg Except.ok ?_
    rw [PropertyMapping.mk.injEq]
    exact ⟨rfl, rfl, rfl, rfl, rfl, hwrap⟩

end Generator

namespace Simulation

open Run

/-! ## Setters with a default -/

/-- A setter that knows a default writes it where the source is missing. -/
theorem Simulator.write_plain_default {wrapping : Wrapping} (simulator : Simulator) (slot : Value)
    (assignment fallback : Assignment) (hnull : wrapping.isNullable = true) :
    simulator.write slot .null (wrapping.plain assignment (some fallback)) =
      simulator.evaluate .null fallback := by
  have hchecks : wrapping.checksSource assignment.type.isConverted true = true := by
    simp [Wrapping.checksSource, hnull]
  rw [Wrapping.plain, write, set]
  simp [hchecks, Value.isNull]

/-! ## Properties with a default -/

/-- **A default value is written, unless the property is a container.** The default value of a
property with a source that may be null is resolved. If the property is no container, then writing
it from a null source is evaluating that default, whatever the slot holds. If it is a container,
then it is mapped as if no default had been given. -/
theorem write_default_value {mapper : MapperDecl} {table : ClassTable} {settings : Settings}
    {method : Method} {generated : GeneratedMethod} {mappings : List PropertyMapping}
    {mapping : PropertyMapping} {value : SourceValue} {presence : Presence} {text : String}
    (hg : ((mapper.generator table settings).draft method).method = some generated)
    (hb : generated.body = .bean mappings) (hmem : mapping ∈ mappings)
    (hsource : mapping.assignment.source? = some (value, presence))
    (hnull : value.isNullable = true)
    (hdefault : (method.options.mappingFor? mapping.name).bind PropertyOptions.defaultValue =
      some text) :
    ∃ fallback, (mapper.generator table settings).resolve (Source.ofText text).value .unchecked
        mapping.targetType .mapping method.contexts = .ok fallback ∧
      (table.isContainer mapping.targetType = false →
        ∀ (behavior? : String → Option (Value → Run Value)) (slot : Value),
          Simulator.write ⟨table, behavior?⟩ slot .null mapping.assignment =
            Simulator.evaluate ⟨table, behavior?⟩ .null fallback) ∧
      (table.isContainer mapping.targetType = true →
        ∃ target source,
          (mapper.generator table settings).propertyMapping method target
            (method.options.mappingFor? mapping.name) source = .ok mapping ∧
          (mapper.generator table settings).propertyMapping method target
            ((method.options.mappingFor? mapping.name).map PropertyOptions.withoutDefault) source =
              .ok mapping) := by
  obtain ⟨target, source, hmapping⟩ := Generator.propertyMapping_of_mem hg hb hmem
  obtain ⟨assignment, fallback, hresolved, hassignment⟩ :=
    Generator.fallback_of_propertyMapping hmapping hdefault
  obtain ⟨_, _, hmapped⟩ := Generator.propertyMapping_mapped hmapping
  cases hsource.symm.trans hmapped.source?_mapping
  rw [hmapped.targetType_eq]
  refine ⟨fallback, hresolved, fun hplain behavior? slot => ?_, fun hcontainer => ?_⟩
  · rw [hassignment, Wrapping.wrap_plain _ _ _ hplain]
    exact Simulator.write_plain_default _ slot assignment fallback hnull
  -- a container takes no fallback, so the mapping is made in the same way without one
  · exact ⟨target, source, hmapping, Generator.propertyMapping_withoutDefault hmapping hcontainer⟩

/-! ## A mapper of badges -/

namespace Badges

/-- Guests and badges have a nick and labels. -/
def classes : ClassTable := .declareAll {} [
  (ClassDecl.interface Platform.collection).generic [] [Platform.iterable],
  { ClassDecl.plain "club.Guest" with
    properties := [
      { name := "nick", typeText := "java.lang.String" },
      { name := "labels", typeText := Platform.collection }] },
  { ClassDecl.plain "club.Badge" with
    properties := [
      { name := "nick", typeText := "java.lang.String" },
      { name := "labels", typeText := Platform.collection }] }]

/-- Makes a badge for a guest; nick and labels are given if there are none. -/
def toBadge : Method where
  name := "toBadge"
  parameters := [{ name := "guest", ty := .named "club.Guest" }]
  returnType := .named "club.Badge"
  owner := .named "club.BadgeMapper"
  options := { mappings := [
    { target := "nick", defaultValue := some "guest" },
    { target := "labels", defaultValue := some "none" }] }

def split : Method where
  name := "split"
  parameters := [{ name := "text", ty := .named "java.lang.String" }]
  returnType := .named Platform.collection
  owner := .named "club.BadgeMapper"
  isAbstract := false

def mapper : MapperDecl where
  ty := .named "club.BadgeMapper"
  methods := [toBadge, split]

/-- The one label that a text is split to. -/
def behavior? : String → Option (Value → Run Value)
  | "split" => some fun text => newList [text]
  | _ => none

/-- Both properties come from sources that may be null and have a default. From null sources the
nick becomes its default, and the labels stay missing although theirs can be evaluated. -/
theorem generated_badge : ∃ generated nick labels nickSource labelsSource,
    ((mapper.generator classes {}).draft toBadge).method = some generated ∧
      generated.body = .bean [nick, labels] ∧ nick.name = "nick" ∧ labels.name = "labels" ∧
      nick.targetType = .named "java.lang.String" ∧
      labels.targetType = .named Platform.collection ∧
      nick.assignment.source? = some (nickSource, .unchecked) ∧ nickSource.isNullable = true ∧
      labels.assignment.source? = some (labelsSource, .unchecked) ∧
      labelsSource.isNullable = true ∧
      Returns (Simulator.write ⟨classes, behavior?⟩ .null .null nick.assignment) {} (.text "guest")
        {} ∧
      Returns (Simulator.write ⟨classes, behavior?⟩ .null .null labels.assignment) {} .null {} :=
  ⟨_, _, _, _, _, rfl, rfl, rfl, rfl, rfl, rfl, rfl, rfl, rfl, rfl, rfl, rfl⟩

/-- The nick is its default. -/
theorem write_default_value_nick : ∃ generated nick labels source fallback,
    ((mapper.generator classes {}).draft toBadge).method = some generated ∧
      generated.body = .bean [nick, labels] ∧
      nick.assignment.source? = some (source, .unchecked) ∧ source.isNullable = true ∧
      (toBadge.options.mappingFor? nick.name).bind PropertyOptions.defaultValue = some "guest" ∧
      classes.isContainer nick.targetType = false ∧
      (mapper.generator classes {}).resolve (Source.ofText "guest").value .unchecked
        nick.targetType .mapping toBadge.contexts = .ok fallback ∧
      Simulator.write ⟨classes, behavior?⟩ .null .null nick.assignment =
        Simulator.evaluate ⟨classes, behavior?⟩ .null fallback := by
  obtain ⟨generated, nick, labels, source, -, hg, hb, hname, -, hty, -, hsource, hnull, -⟩ :=
    generated_badge
  have hdefault : (toBadge.options.mappingFor? nick.name).bind PropertyOptions.defaultValue =
      some "guest" := by rw [hname]; rfl
  have hplain : classes.isContainer nick.targetType = false := by rw [hty]; decide +kernel
  obtain ⟨fallback, hresolved, hwritten, -⟩ :=
    write_default_value hg hb (by simp) hsource hnull hdefault
  exact ⟨generated, nick, labels, source, fallback, hg, hb, hsource, hnull, hdefault, hplain,
    hresolved, hwritten hplain behavior? .null⟩

/-- The labels stay missing, although their default is resolved and can be evaluated. -/
theorem not_always_defaulted : ¬∀ (mapper : MapperDecl) (table : ClassTable) (settings : Settings)
    (method : Method) (generated : GeneratedMethod) (mappings : List PropertyMapping)
    (mapping : PropertyMapping) (value : SourceValue) (presence : Presence) (text : String)
    (fallback : Assignment) (behavior? : String → Option (Value → Run Value))
    (slot result : Value) (heap heap' : Heap),
    ((mapper.generator table settings).draft method).method = some generated →
    generated.body = .bean mappings → mapping ∈ mappings →
    mapping.assignment.source? = some (value, presence) → value.isNullable = true →
    (method.options.mappingFor? mapping.name).bind PropertyOptions.defaultValue = some text →
    (mapper.generator table settings).resolve (Source.ofText text).value .unchecked
      mapping.targetType .mapping method.contexts = .ok fallback →
    Returns (Simulator.write ⟨table, behavior?⟩ slot .null mapping.assignment) heap result heap' →
    ∃ heap'', Returns (Simulator.evaluate ⟨table, behavior?⟩ .null fallback) heap result heap'' := by
  intro hall
  obtain ⟨generated, nick, labels, -, source, hg, hb, -, hname, -, hty, -, -, hsource, hnull, -,
    hrun⟩ := generated_badge
  have hresolved : ∃ fallback, (mapper.generator classes {}).resolve (Source.ofText "none").value
      .unchecked labels.targetType .mapping toBadge.contexts = .ok fallback ∧
        Returns (Simulator.evaluate ⟨classes, behavior?⟩ .null fallback) {} (.list 0)
          { lists := [[.text "none"]] } := by
    rw [hty]
    exact ⟨_, rfl, rfl⟩
  obtain ⟨fallback, hresolved, hevaluated⟩ := hresolved
  obtain ⟨heap'', hreturns⟩ := hall mapper classes {} toBadge generated [nick, labels] labels source
    .unchecked "none" fallback behavior? .null .null {} {} hg hb (by simp) hsource hnull
    (by rw [hname]; rfl) hresolved hrun
  cases hevaluated.symm.trans hreturns

end Badges

end Simulation

end BeanMapper
