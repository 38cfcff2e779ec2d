import BeanMapper.Mapper.Generated
import BeanMapper.Proofs.Generation.Mappings
import BeanMapper.Proofs.Generation.Paths
import BeanMapper.Proofs.Type.Inheritance

/-!
# Guards on nested paths

A path leads from a parameter through properties, each of which is readable in the type of the one
before (`Source.LeadsOn`), and what it reads is built up getter by getter (`Source.reached`). The
value at its end is read by all the getters, and every expression on the way, which is one for each
property but the last, is to be checked for null (`Source.ReadsThrough`). In a generated method the
checks are never lost: behind a nested path each wrapper looks at its source before it writes
(`Generator.nested_path_guarded`).
-/

namespace BeanMapper

/-! ## Wrappers that look at their source -/

/-- A wrapper that looks at the source before it writes. -/
inductive Assignment.LooksAtSource : Assignment → Prop where
  | nullCheck (guard : Guard) (inner : Assignment) : LooksAtSource (.nullCheck guard inner)
  | merge (guard : Guard) (check : NullValueCheck) (property : NullValueProperty)
    (inner : Assignment) : LooksAtSource (.merge guard check property inner)
  | setter (setting : Setting) (inner : Assignment) (fallback : Option Assignment)
    (h : setting.checksSource = true) : LooksAtSource (.setter setting inner fallback)

/-- Whatever the property and the options are, a guarded source is looked at. -/
theorem Wrapping.looksAtSource_of_isGuarded {wrapping : Wrapping} (h : wrapping.isGuarded = true)
    (assignment : Assignment) (fallback : Option Assignment) :
    (wrapping.wrap assignment fallback).LooksAtSource := by
  cases hcontainer : wrapping.table.isContainer wrapping.target.ty with
  | true =>
    rw [wrap_container _ _ _ hcontainer, container]
    split
    · exact .merge ..
    · rw [if_pos (by simp [h])]
      exact .nullCheck ..
  | false =>
    rw [wrap_plain _ _ _ hcontainer, plain]
    exact .setter _ _ _ (by simp [checksSource, h])

namespace Source

variable {table : ClassTable} {parameter : Parameter} {properties : List Property}
  {beans : List SourceBean} {path : String} {names : List String}

/-! ## Expressions on the way -/

/-- What the first properties of a path are read by. -/
def reached (parameter : Parameter) (properties : List Property) (count : Nat) : String :=
  reading parameter.name (properties.take count)

@[simp]
theorem reached_zero (parameter : Parameter) (properties : List Property) :
    reached parameter properties 0 = parameter.name := rfl

/-- Each property is read from what has been reached before it. -/
theorem reached_succ {count : Nat} {property : Property} (h : properties[count]? = some property) :
    reached parameter properties (count + 1) =
      reached parameter properties count ++ "." ++ property.getterName ++ "()" := by
  rw [reached, List.take_add_one, h, Option.toList_some, reading_concat]
  rfl

theorem readings_eq (start : String) (properties : List Property) :
    readings start properties =
      (List.range' 1 properties.length).map fun count => reading start (properties.take count) := by
  induction properties generalizing start with
  | nil => rfl
  | cons property rest ih =>
    rw [readings, ih, List.length_cons, List.range'_succ, List.map_cons,
      List.range'_succ_left (s := 1), List.map_map]
    rfl

/-- What a path reads: the value at its end is read by all the getters, the expressions on the way
are to be checked for null, and the last property may have a check of its own, which is read from
what has been reached before it. -/
structure ReadsThrough (parameter : Parameter) (properties : List Property) (source : Source) :
    Prop where
  parameter_eq : source.value.parameter = parameter.name
  path_eq : source.value.path =
    parameter.name ++ "." ++ String.intercalate "." (properties.map Property.name)
  reference_eq : source.value.reference = reached parameter properties properties.length
  pathChecks_eq : source.value.pathChecks =
    (List.range' 1 (properties.length - 1)).map (reached parameter properties)
  isConstant_eq : source.value.isConstant = false
  last : ∃ last, properties.getLast? = some last ∧ source.value.ty = last.ty ∧
    source.presence = match last.presenceCheckerName? with
      | some checker =>
        .accessor (reached parameter properties (properties.length - 1) ++ "." ++ checker ++ "()")
      | none => .unchecked

theorem readsThrough (hne : properties ≠ []) :
    (through parameter properties).ReadsThrough parameter properties := by
  obtain ⟨before, last, rfl⟩ := (List.eq_nil_or_concat properties).resolve_left hne
  rw [List.concat_eq_append] at hne ⊢
  have hlast : (before ++ [last]).getLast? = some last := List.getLast?_concat
  have hbefore : reached parameter (before ++ [last]) before.length =
      reading parameter.name before := by rw [reached, List.take_left]
  have hall : reached parameter (before ++ [last]) (before ++ [last]).length =
      reading parameter.name (before ++ [last]) := by rw [reached, List.take_length]
  simp only [through, hlast, List.dropLast_concat]
  refine ⟨rfl, rfl, hall.symm, ?_, rfl, last, hlast, rfl, ?_⟩
  · rw [readings_eq, List.length_append, List.length_singleton, Nat.add_sub_cancel]
    refine List.map_congr_left fun count hcount => ?_
    have hle : count ≤ before.length := by
      have := (List.mem_range'_1.1 hcount).2
      omega
    rw [reached, List.take_append_of_le_length hle]
  · rw [List.length_append, List.length_singleton, Nat.add_sub_cancel, hbefore]
    rfl

theorem ReadsThrough.isNested {source : Source} (h : source.ReadsThrough parameter properties)
    (hlength : 2 ≤ properties.length) : source.value.isNested = true := by
  obtain ⟨count, hcount⟩ : ∃ count, properties.length - 1 = count + 1 :=
    ⟨properties.length - 2, by omega⟩
  rw [SourceValue.isNested, h.pathChecks_eq, hcount, List.range'_succ]
  rfl

/-! ## Presence checks -/

/-- A check replaces the presence of a source and nothing else. -/
theorem value_of_checked {resolver : Resolver} {context : List Parameter} {source checked : Source}
    (h : source.checked resolver context = .ok checked) : checked.value = source.value := by
  unfold Source.checked at h
  split at h
  · cases h; rfl
  · split at h <;> cases h <;> rfl

/-- Without a method that checks values of its type a source stays as it is. -/
theorem eq_of_checked {resolver : Resolver} {context : List Parameter} {source checked : Source}
    (h : source.checked resolver context = .ok checked)
    (hnone : resolver.presenceCheck source.value.ty context = .ok none) : checked = source := by
  unfold Source.checked at h
  rw [hnone] at h
  split at h <;> cases h <;> rfl

end Source

namespace Generator

variable {generator : Generator} {method : Method} {beans : List SourceBean}
  {writable : List Property}

/-! ## Mappings from a path -/

theorem properties_of_propertiesOf {table : ClassTable} {ty : Ty} {properties : List Property}
    (h : propertiesOf table ty = .ok properties) : table.properties ty = .ok properties :=
  mapError_eq_ok h

/-- The beans of a method are its source parameters with their properties. -/
theorem beansOf_sources {table : ClassTable} (h : beansOf table method = .ok (beans, writable)) :
    List.Forall₂ (fun parameter bean => bean.parameter = parameter ∧
      table.properties parameter.ty = .ok bean.properties) method.sources beans := by
  unfold beansOf at h
  obtain ⟨found, hfound, h⟩ := bind_eq_ok h
  obtain ⟨targets, -, h⟩ := bind_eq_ok h
  cases h
  refine (mapM_eq_ok hfound).imp fun parameter bean hbean => ?_
  obtain ⟨properties, hproperties, hbean⟩ := bind_eq_ok hbean
  cases hbean
  exact ⟨rfl, properties_of_propertiesOf hproperties⟩

theorem map_parameter_of_beansOf {table : ClassTable}
    (h : beansOf table method = .ok (beans, writable)) :
    beans.map SourceBean.parameter = method.sources := by
  have hsources := beansOf_sources h
  clear h
  generalize method.sources = parameters at hsources ⊢
  induction hsources with
  | nil => rfl
  | cons hbean _ ih => rw [List.map_cons, hbean.1, ih]

theorem properties_of_beansOf {table : ClassTable} (h : beansOf table method = .ok (beans, writable)) :
    ∀ bean ∈ beans, table.properties bean.parameter.ty = .ok bean.properties := by
  intro bean hbean
  obtain ⟨parameter, -, rfl, hproperties⟩ := (forall₂_counterparts (beansOf_sources h)).2 bean hbean
  exact hproperties

/-- A mapping without faults has no constant beside its source. -/
theorem constant_of_explicitFaults {result : Ty} {seen : List String}
    {mappings : List PropertyOptions} {e : PropertyOptions} {path : String}
    (h : explicitFaults result writable seen mappings = []) (hmem : e ∈ mappings)
    (hsource : e.source = some path) : e.constant = none := by
  induction mappings generalizing seen with
  | nil => cases hmem
  | cons first rest ih =>
    obtain ⟨hown, hrest⟩ := List.append_eq_nil_iff.1 h
    rcases List.mem_cons.1 hmem with rfl | hmem
    · simpa [mappingFaults, hsource] using (List.append_eq_nil_iff.1 hown).2
    · exact ih hrest hmem

/-- What an explicit mapping with a path makes of a property: the source that the path leads to,
with its presence as the method knows it. -/
theorem Drafted.origin_of_path {mappings : List PropertyMapping} {mapping : PropertyMapping}
    {reports : List Report} {path : String}
    (h : Drafted generator method beans writable reports mappings) (hmem : mapping ∈ mappings)
    (hpath : (method.options.mappingFor? mapping.name).bind PropertyOptions.source = some path) :
    ∃ target source checked, Source.ofPath generator.table beans path = .ok source ∧
      source.checked generator.toResolver method.contexts = .ok checked ∧
      generator.propertyMapping method target (method.options.mappingFor? target.name) checked =
        .ok mapping := by
  obtain ⟨target, -, source, checked, hname, hsource, hchecked, hmade⟩ := h.origin hmem
  rw [hname] at hpath
  obtain ⟨e, he, hepath⟩ := Option.bind_eq_some_iff.1 hpath
  have hconstant : e.constant = none :=
    constant_of_explicitFaults h.explicit (List.mem_of_find?_eq_some he) hepath
  refine ⟨target, source, checked, ?_, hchecked, hmade⟩
  simp only [Source.candidates, he, Option.bind_some, hconstant, hepath] at hsource
  cases hok : Source.ofPath generator.table beans path with
  | error message => rw [hok] at hsource; cases hsource
  | ok found => rw [hok] at hsource; cases hsource; rfl

/-- **Nested paths are guarded at every step.** Let an explicit path lead from a source parameter
through one property or more. Then the properties lead on from the type of the parameter; the source
is read by all their getters, is to be checked for null at every expression on the way, and has the
type of the last property; it is there if the last property's check says so, unless a method checks
values of its type. In a generated method the mappings that name the path have this source; and if
the path leads through more than one property, then their wrappers look at it before they write,
whatever the property and the options are. -/
theorem nested_path_guarded {path : String} {parameter : Parameter} {names : List String}
    {source : Source} (hbeans : beansOf generator.table method = .ok (beans, writable))
    (hstart : Source.startOfPath? beans path = some (parameter, names)) (hne : names ≠ [])
    (hsource : Source.ofPath generator.table beans path = .ok source) :
    parameter ∈ method.sources ∧
      (Text.parts '.' path = parameter.name :: names ∨
        method.sources = [parameter] ∧ Text.parts '.' path = names) ∧
      ∃ properties, Source.LeadsOn generator.table parameter.ty properties ∧
        properties.map Property.name = names ∧ source.ReadsThrough parameter properties ∧
        (∀ checked, source.checked generator.toResolver method.contexts = .ok checked →
          checked.value = source.value ∧
            (generator.presenceCheck source.value.ty method.contexts = .ok none →
              checked = source)) ∧
        ∀ generated mappings mapping, (generator.draft method).method = some generated →
          generated.body = .bean mappings → mapping ∈ mappings →
          (method.options.mappingFor? mapping.name).bind PropertyOptions.source = some path →
          ∃ checked, source.checked generator.toResolver method.contexts = .ok checked ∧
            mapping.assignment.source? = some (checked.value, checked.presence) ∧
            (2 ≤ properties.length → mapping.assignment.LooksAtSource) := by
  have hparameters := map_parameter_of_beansOf hbeans
  obtain ⟨bean, hbean, rfl, hparts⟩ := Source.startOfPath?_cases hstart
  obtain ⟨properties, hleads, hnames, rfl⟩ := (Source.ofPath_eq_ok_iff hstart).1 hsource
  have hnonempty : properties ≠ [] := fun hnil => hne (by rw [← hnames, hnil]; rfl)
  have hreads : (Source.through bean.parameter properties).ReadsThrough bean.parameter properties :=
    Source.readsThrough hnonempty
  have hstarts : Text.parts '.' path = bean.parameter.name :: names ∨
      method.sources = [bean.parameter] ∧ Text.parts '.' path = names := by
    refine hparts.imp_right fun ⟨hone, hall⟩ => ⟨?_, hall⟩
    rw [← hparameters, hone]
    rfl
  refine ⟨hparameters ▸ List.mem_map_of_mem hbean, hstarts, properties, hleads, hnames, hreads,
    fun checked hchecked => ⟨Source.value_of_checked hchecked, Source.eq_of_checked hchecked⟩, ?_⟩
  intro generated mappings mapping hg hb hmem hpath
  rw [draft_eq_bean hg hb] at hg
  -- the mapping has been drafted from the same beans, so it starts from the same source
  obtain ⟨beans', writable', hdrafted⟩ := bean_drafted hg hb
  cases hbeans.symm.trans hdrafted.beans_eq
  obtain ⟨target, found, checked, hfound, hchecked, hmade⟩ := hdrafted.origin_of_path hmem hpath
  cases hsource.symm.trans hfound
  obtain ⟨assignment, fallback, hmapped⟩ := propertyMapping_mapped hmade
  refine ⟨checked, hchecked, hmapped.source?_mapping, fun hlength => ?_⟩
  -- a check of the last property replaces the presence, but not the expressions on the way
  have hnested : checked.value.isNested = true := by
    rw [Source.value_of_checked hchecked]
    exact hreads.isNested hlength
  rw [hmapped.assignment_eq]
  exact Wrapping.looksAtSource_of_isGuarded (by simp [wrappingOf, hnested]) _ _

end Generator

/-! ## Labels of cars -/

namespace Workshop

/-- A car has an engine, that has a maker, and a maker has a name and tells whether it is known. -/
def classes : ClassTable := .declareAll {} [
  { ClassDecl.plain "cars.Car" with
    properties := [{ name := "engine", typeText := "cars.Engine" }] },
  { ClassDecl.plain "cars.Engine" with
    properties := [{ name := "maker", typeText := "cars.Maker" }] },
  { ClassDecl.plain "cars.Maker" with
    properties := [
      { name := "name", typeText := "java.lang.String", hasPresenceChecker := true }] },
  { ClassDecl.plain "cars.Label" with
    properties := [{ name := "brand", typeText := "java.lang.String" }] }]

def car : Parameter := { name := "car", ty := .named "cars.Car" }

/-- The brand on a label is the name of the engine's maker. -/
def toLabel : Method where
  name := "toLabel"
  parameters := [car]
  returnType := .named "cars.Label"
  owner := .named "cars.LabelMapper"
  options := { mappings := [{ target := "brand", source := some "car.engine.maker.name" }] }

def mapper : MapperDecl where
  ty := .named "cars.LabelMapper"
  methods := [toLabel]

def property (name : String) (ty : Ty) : Property where
  name := name
  ty := ty
  isReadable := true
  isWritable := true
  hasPresenceChecker := false

def trail : List Property := [property "engine" (.named "cars.Engine"),
  property "maker" (.named "cars.Maker"),
  { property "name" .string with hasPresenceChecker := true }]

theorem generated_label : ∃ generated brand,
    ((mapper.generator classes {}).draft toLabel).method = some generated ∧
      generated.body = .bean [brand] ∧ brand.name = "brand" :=
  ⟨_, _, rfl, rfl, rfl⟩

/-- The engine and its maker are checked before the name of the maker is read. -/
theorem nested_path_guarded_brand : ∃ beans writable source,
    Generator.beansOf classes toLabel = .ok (beans, writable) ∧
      Source.startOfPath? beans "car.engine.maker.name" =
        some (car, ["engine", "maker", "name"]) ∧
      Source.ofPath classes beans "car.engine.maker.name" = .ok source ∧
      source.ReadsThrough car trail ∧
      source.value.reference = "car.getEngine().getMaker().getName()" ∧
      source.value.pathChecks = ["car.getEngine()", "car.getEngine().getMaker()"] ∧
      source.presence = .accessor "car.getEngine().getMaker().hasName()" ∧
      ∃ generated brand, ((mapper.generator classes {}).draft toLabel).method = some generated ∧
        generated.body = .bean [brand] ∧
        brand.assignment.source? = some (source.value, source.presence) ∧
        brand.assignment.LooksAtSource := by
  have hok : ∃ beans writable, Generator.beansOf classes toLabel = .ok (beans, writable) ∧
      Source.startOfPath? beans "car.engine.maker.name" =
        some (car, ["engine", "maker", "name"]) ∧
      Source.ofPath classes beans "car.engine.maker.name" = .ok (.through car trail) :=
    ⟨_, _, rfl, rfl, rfl⟩
  obtain ⟨beans, writable, hbeans, hstart, hsource⟩ := hok
  obtain ⟨generated, brand, hg, hb, hname⟩ := generated_label
  have hpath : (toLabel.options.mappingFor? brand.name).bind PropertyOptions.source =
      some "car.engine.maker.name" := by rw [hname]; rfl
  have hgenerator : Generator.beansOf (mapper.generator classes {}).table toLabel =
      .ok (beans, writable) := hbeans
  obtain ⟨-, -, properties, -, hnames, -, -, hmapped⟩ :=
    Generator.nested_path_guarded hgenerator hstart (by simp) hsource
  have hlength : 2 ≤ properties.length := by
    rw [← List.length_map, hnames]
    decide
  obtain ⟨checked, hchecked, hbrand, hlooks⟩ :=
    hmapped generated [brand] brand hg hb (by simp) hpath
  -- no method checks texts, so the source stays as it is
  have hsame : checked = .through car trail := Source.eq_of_checked hchecked rfl
  rw [hsame] at hbrand
  exact ⟨beans, writable, _, hbeans, hstart, hsource, Source.readsThrough (by simp [trail]), rfl, rfl,
    rfl, generated, brand, hg, hb, hbrand, hlooks hlength⟩

end Workshop

end BeanMapper
