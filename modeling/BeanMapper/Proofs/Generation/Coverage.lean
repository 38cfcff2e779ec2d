import BeanMapper.Mapper.Generated
import BeanMapper.Proofs.Generation.Outcomes
import BeanMapper.Proofs.Type.Inheritance
import Mathlib.Data.List.Nodup

/-!
# What becomes of every target property

Under the policy to warn, a writable property of a generated bean method is mapped once, ignored by
an explicit mapping, or named in the warning on unmapped targets, and it is so in one of these ways
only. There is one exception, `Lost`: a property with an explicit mapping that says neither where
its value comes from nor to ignore it is dropped without a word if no source offers its name.
`accounted_iff_not_lost` says that there are no others.
-/

namespace BeanMapper

/-! ## Explicit mappings -/

theorem Generator.targets_of_explicitFaults {result : Ty} {writable : List Property}
    {seen : List String} {mappings : List PropertyOptions}
    (h : explicitFaults result writable seen mappings = []) :
    (mappings.map PropertyOptions.target).Nodup ∧ ∀ e ∈ mappings, e.target ∉ seen := by
  induction mappings generalizing seen with
  | nil => exact ⟨List.nodup_nil, by simp⟩
  | cons e rest ih =>
    obtain ⟨hown, hrest⟩ := List.append_eq_nil_iff.1 h
    obtain ⟨hnodup, hfresh⟩ := ih hrest
    have hseen : e.target ∉ seen := by
      intro hmem
      simp [mappingFaults, hmem] at hown
    refine ⟨List.nodup_cons.2 ⟨fun hmem => ?_, hnodup⟩, fun f hf => ?_⟩
    · obtain ⟨f, hf, hname⟩ := List.mem_map.1 hmem
      exact hfresh f hf (by simp [hname])
    · rcases List.mem_cons.1 hf with rfl | hf
      · exact hseen
      · exact fun hh => hfresh f hf (List.mem_cons_of_mem _ hh)

/-- If no target is mapped twice, what the mappings say of a target is what the first one says. -/
theorem MethodOptions.exists_mapping_iff {options : MethodOptions}
    (h : (options.mappings.map PropertyOptions.target).Nodup) (name : String)
    (P : PropertyOptions → Prop) :
    (∃ e ∈ options.mappings, e.target = name ∧ P e) ↔
      ∃ e, options.mappingFor? name = some e ∧ P e := by
  constructor
  · rintro ⟨e, he, rfl, hp⟩
    obtain ⟨f, hf⟩ : ∃ f, options.mappingFor? e.target = some f := by
      apply Option.isSome_iff_exists.1
      exact List.find?_isSome.2 ⟨e, he, by simp⟩
    have hname : f.target = e.target := by simpa using List.find?_some hf
    have : f = e := List.inj_on_of_nodup_map h (List.mem_of_find?_eq_some hf) he hname
    exact ⟨e, this ▸ hf, hp⟩
  · rintro ⟨e, he, hp⟩
    exact ⟨e, List.mem_of_find?_eq_some he, by simpa using List.find?_some he, hp⟩

theorem Source.candidates_eq_nil_iff {table : ClassTable} {beans : List SourceBean}
    {explicit : Option PropertyOptions} {name : String} :
    candidates table beans explicit name = .ok [] ↔
      explicit.bind PropertyOptions.constant = none ∧
        explicit.bind PropertyOptions.source = none ∧
        ∀ bean ∈ beans, offered? beans name bean = none := by
  unfold candidates
  split
  · rename_i text _ h
    simp [h]
  · rename_i path h h'
    simp only [h', reduceCtorEq, false_and, and_false, iff_false]
    cases ofPath table beans path <;> simp [Except.map]
  · rename_i h h'
    simp [h, h', List.filterMap_eq_nil_iff]

/-! ## The account of a property -/

def Method.Ignores (method : Method) (name : String) : Prop :=
  ∃ e ∈ method.options.mappings, e.target = name ∧ e.ignore = true

/-- Whether a report is a warning that names a property among the unmapped targets. -/
def Report.Names (report : Report) (name : String) : Prop :=
  report.severity = .warning ∧ ∃ names, report.message = .unmappedTargets names ∧ name ∈ names

/-- A property is mapped once, ignored, or named in a warning, and only one of these. -/
def Method.Accounts (method : Method) (mappings : List PropertyMapping) (reports : List Report)
    (name : String) : Prop :=
  let mapped := (mappings.map PropertyMapping.name).count name
  let reported := ∃ report ∈ reports, report.Names name
  (mapped = 1 ∧ ¬method.Ignores name ∧ ¬reported) ∨
    (mapped = 0 ∧ method.Ignores name ∧ ¬reported) ∨
    (mapped = 0 ∧ ¬method.Ignores name ∧ reported)

/-- A property has an explicit mapping that gives neither source nor constant and does not ignore
it, and no source offers anything under its name. -/
def Method.Loses (method : Method) (beans : List SourceBean) (name : String) : Prop :=
  ∃ e ∈ method.options.mappings, e.target = name ∧ e.ignore = false ∧ e.source = none ∧
    e.constant = none ∧ ∀ bean ∈ beans, Source.offered? beans name bean = none

namespace Generator

variable {generator : Generator} {method : Method} {beans : List SourceBean}
  {writable : List Property} {reports : List Report} {mappings : List PropertyMapping}
  {target : Property} {outcome : Outcome}

theorem Fate.name_eq (h : Fate generator method beans target outcome) :
    outcome.name = target.name := by
  cases h <;> rfl

theorem Fate.mapping_name (h : Fate generator method beans target outcome)
    {mapping : PropertyMapping} (hm : outcome.mapping = some mapping) :
    mapping.name = target.name := by
  cases h with
  | mapped _ _ _ hmapping =>
    cases hm
    obtain ⟨_, _, hmapped⟩ := propertyMapping_mapped hmapping
    exact hmapped.name_eq
  | _ => cases hm

theorem ignores_iff (hnodup : (method.options.mappings.map PropertyOptions.target).Nodup)
    (name : String) : method.Ignores name ↔
      (method.options.mappingFor? name).any PropertyOptions.ignore = true := by
  rw [Method.Ignores, MethodOptions.exists_mapping_iff hnodup, Option.any_eq_true]

theorem loses_iff (hnodup : (method.options.mappings.map PropertyOptions.target).Nodup)
    (table : ClassTable) (beans : List SourceBean) (name : String) :
    method.Loses beans name ↔ ∃ e, method.options.mappingFor? name = some e ∧ e.ignore = false ∧
      Source.candidates table beans (some e) name = .ok [] := by
  rw [Method.Loses, MethodOptions.exists_mapping_iff hnodup]
  simp only [Source.candidates_eq_nil_iff, Option.bind_some]
  constructor
  · rintro ⟨e, he, hi, hs, hc, ho⟩
    exact ⟨e, he, hi, hc, hs, ho⟩
  · rintro ⟨e, he, hi, hc, hs, ho⟩
    exact ⟨e, he, hi, hs, hc, ho⟩

/-- Of a property without faults, what is written down and what the sources offer decide the
fate. -/
theorem Fate.decides (h : Fate generator method beans target outcome)
    (hnodup : (method.options.mappings.map PropertyOptions.target).Nodup) :
    (outcome.mapping.isSome = true ∧ ¬method.Ignores target.name ∧ outcome.isUnmapped = false ∧
        ¬method.Loses beans target.name) ∨
      (outcome.mapping = none ∧ method.Ignores target.name ∧ outcome.isUnmapped = false ∧
        ¬method.Loses beans target.name) ∨
      (outcome.mapping = none ∧ ¬method.Ignores target.name ∧
        (outcome.isUnmapped = true ↔ ¬method.Loses beans target.name)) := by
  rw [ignores_iff hnodup, loses_iff hnodup generator.table]
  cases h with
  | ignored hi =>
    refine Or.inr (Or.inl ⟨rfl, hi, rfl, ?_⟩)
    rintro ⟨e, he, hne, -⟩
    rw [he, Option.any_some, hne] at hi
    cases hi
  | mapped hi hs =>
    refine Or.inl ⟨rfl, by simp [hi], rfl, ?_⟩
    rintro ⟨e, he, -, hnil⟩
    rw [he, hnil] at hs
    cases hs
  | unprovided hi hs =>
    refine Or.inr (Or.inr ⟨rfl, by simp [hi], ?_⟩)
    cases he : method.options.mappingFor? target.name with
    | none => simp
    | some e =>
      rw [he] at hi hs
      simp only [Option.isNone_some, Bool.false_eq_true, false_iff, not_not]
      exact ⟨e, rfl, hi, hs⟩

/-! ## Lists of outcomes -/

/-- In a list of properties with distinct names a name stands for one property. -/
theorem mem_names_filter {properties : List Property} (h : (properties.map Property.name).Nodup)
    (ht : target ∈ properties) (P : Property → Bool) :
    target.name ∈ (properties.filter P).map Property.name ↔ P target = true := by
  constructor
  · intro hmem
    obtain ⟨other, ho, hname⟩ := List.mem_map.1 hmem
    obtain ⟨ho, hP⟩ := List.mem_filter.1 ho
    rwa [List.inj_on_of_nodup_map h ho ht hname] at hP
  · intro hP
    exact List.mem_map_of_mem (List.mem_filter.2 ⟨ht, hP⟩)

theorem names_of_mappings {outcomes : Property → Outcome}
    (h : ∀ t ∈ writable, ∀ m, (outcomes t).mapping = some m → m.name = t.name) :
    ((writable.map outcomes).filterMap Outcome.mapping).map PropertyMapping.name =
      (writable.filter fun t => (outcomes t).mapping.isSome).map Property.name := by
  induction writable with
  | nil => rfl
  | cons t rest ih =>
    have ih := ih fun u hu => h u (List.mem_cons_of_mem _ hu)
    rw [List.map_cons]
    cases hm : (outcomes t).mapping with
    | none => rw [List.filterMap_cons_none hm, List.filter_cons_of_neg (by simp [hm]), ih]
    | some m =>
      rw [List.filterMap_cons_some hm, List.filter_cons_of_pos (by simp [hm]), List.map_cons,
        List.map_cons, ih, h t (by simp) m hm]

theorem names_of_unmapped {outcomes : Property → Outcome}
    (h : ∀ t ∈ writable, (outcomes t).name = t.name) :
    ((writable.map outcomes).filter Outcome.isUnmapped).map Outcome.name =
      (writable.filter fun t => (outcomes t).isUnmapped).map Property.name := by
  rw [List.filter_map, List.map_map]
  exact List.map_congr_left fun t ht => h t (List.mem_filter.1 ht).1

theorem message_of_mem_policyReports {policy : ReportingPolicy} {element : String}
    {message : List String → Message} {properties : List String} {report : Report}
    (h : report ∈ policyReports policy element message properties) :
    report.message = message properties := by
  unfold policyReports at h
  split at h
  · cases h
  · split at h
    · cases h
    · rw [List.mem_singleton.1 h]
    · rw [List.mem_singleton.1 h]

/-- Only the warning on unmapped targets names them. -/
theorem exists_names_iff {policy : ReportingPolicy} {element name : String}
    {unmapped unused : List String} :
    (∃ report ∈ policyReports .warn element .unmappedTargets unmapped ++
        policyReports policy element .unmappedSources unused, report.Names name) ↔
      name ∈ unmapped := by
  constructor
  · rintro ⟨report, hr, -, names, hm, hn⟩
    rcases List.mem_append.1 hr with hr | hr
    · cases (message_of_mem_policyReports hr).symm.trans hm
      exact hn
    · cases (message_of_mem_policyReports hr).symm.trans hm
  · intro hn
    have hne : unmapped.isEmpty = false := by
      cases unmapped with
      | nil => cases hn
      | cons => rfl
    refine ⟨⟨.warning, element, .unmappedTargets unmapped⟩, ?_, rfl, unmapped, rfl, hn⟩
    simp [policyReports, hne]

/-! ## The account of a method -/

theorem Drafted.names_eq (h : Drafted generator method beans writable reports mappings) :
    mappings.map PropertyMapping.name =
      (writable.filter fun t => (generator.outcome method beans t).mapping.isSome).map
        Property.name := by
  rw [h.mappings_eq]
  exact names_of_mappings fun t ht m hm => (h.fate t ht).mapping_name hm

theorem Drafted.reported_iff (h : Drafted generator method beans writable reports mappings)
    (hw : (generator.options [method.options.options]).unmappedTarget = .warn)
    (hn : (writable.map Property.name).Nodup) (ht : target ∈ writable) :
    (∃ report ∈ reports, report.Names target.name) ↔
      (generator.outcome method beans target).isUnmapped = true := by
  rw [h.reports_eq, hw, exists_names_iff, names_of_unmapped fun t ht => (h.fate t ht).name_eq]
  exact mem_names_filter hn ht _

theorem Drafted.count_eq (h : Drafted generator method beans writable reports mappings)
    (hn : (writable.map Property.name).Nodup) (ht : target ∈ writable) :
    (mappings.map PropertyMapping.name).count target.name =
      if (generator.outcome method beans target).mapping.isSome then 1 else 0 := by
  have hsub := (List.filter_sublist (l := writable)
    (p := fun t => (generator.outcome method beans t).mapping.isSome)).map Property.name
  rw [h.names_eq, (hn.sublist hsub).count]
  simp only [mem_names_filter hn ht]

/-- A writable property is accounted for in one way, or it is lost. -/
theorem Drafted.accounts_iff (h : Drafted generator method beans writable reports mappings)
    (hw : (generator.options [method.options.options]).unmappedTarget = .warn)
    (hn : (writable.map Property.name).Nodup) (ht : target ∈ writable) :
    method.Accounts mappings reports target.name ↔ ¬method.Loses beans target.name := by
  have hnodup := (targets_of_explicitFaults h.explicit).1
  simp only [Method.Accounts, h.count_eq hn ht, h.reported_iff hw hn ht]
  rcases (h.fate target ht).decides hnodup with ⟨hm, hi, hu, hl⟩ | ⟨hm, hi, hu, hl⟩ | ⟨hm, hi, hu⟩
  · simp [hm, hi, hu, hl]
  · simp [hm, hi, hu, hl]
  · simp [hm, hi, hu]

theorem beansOf_targets {table : ClassTable} (h : beansOf table method = .ok (beans, writable)) :
    ∃ properties, table.properties method.resultType = .ok properties ∧
      writable = properties.filter Property.isWritable := by
  simp only [beansOf, bind, Except.bind, pure, Except.pure] at h
  split at h
  · cases h
  · split at h
    · cases h
    · rename_i targets htargets
      cases h
      unfold propertiesOf at htargets
      cases hp : table.properties method.resultType with
      | error e => rw [hp] at htargets; cases htargets
      | ok properties => rw [hp] at htargets; cases htargets; exact ⟨_, rfl, rfl⟩

end Generator

/-! ## Generated mappers -/

namespace MapperDecl

/-- In a generated bean method under the policy to warn every writable property of the result is
mapped once, ignored or reported, in one way only, unless it is lost; and the mapped properties are
in the order of the result's properties. -/
theorem accounted_iff_not_lost {mapper : MapperDecl} {table : ClassTable} {settings : Settings}
    {method : Method} {generated : GeneratedMethod} {mappings : List PropertyMapping}
    (hm : method ∈ mapper.abstractMethods)
    (hg : ((mapper.generator table settings).draft method).method = some generated)
    (hb : generated.body = .bean mappings)
    (hw : ((mapper.generator table settings).options [method.options.options]).unmappedTarget =
      .warn) :
    generated ∈ (mapper.generate table settings).methods ∧
      ((mapper.generator table settings).draft method).reports ⊆
        (mapper.generate table settings).reports ∧
      ∃ beans properties, table.properties method.resultType = .ok properties ∧
        Generator.beansOf table method = .ok (beans, properties.filter Property.isWritable) ∧
        (mappings.map PropertyMapping.name).Sublist (properties.map Property.name) ∧
        ∀ property ∈ properties, property.isWritable = true →
          (method.Accounts mappings ((mapper.generator table settings).draft method).reports
              property.name ↔
            ¬method.Loses beans property.name) := by
  have hdraft : (mapper.generator table settings).draft method ∈
      mapper.abstractMethods.map (mapper.generator table settings).draft :=
    List.mem_map_of_mem hm
  refine ⟨List.mem_filterMap.2 ⟨_, hdraft, hg⟩, fun r hr => ?_, ?_⟩
  · exact List.mem_append_left _ (List.mem_flatMap.2 ⟨_, hdraft, hr⟩)
  · have hbean := Generator.draft_eq_bean hg hb
    rw [hbean] at hg ⊢
    obtain ⟨beans, writable, h⟩ := Generator.bean_drafted hg hb
    obtain ⟨properties, hp, rfl⟩ := Generator.beansOf_targets h.beans_eq
    -- the names of the properties are distinct, so each outcome is one property's own
    have hnodup := ClassTable.nodup_properties hp
    have hsub := (List.filter_sublist (p := Property.isWritable) (l := properties)).map
      Property.name
    refine ⟨beans, properties, hp, h.beans_eq, ?_, fun property hmem hwritable => ?_⟩
    · rw [h.names_eq]
      exact (List.filter_sublist.map _).trans hsub
    · exact h.accounts_iff hw (hnodup.sublist hsub) (List.mem_filter.2 ⟨hmem, hwritable⟩)

end MapperDecl

/-! ## A mapper of cards -/

namespace Card

/-- A person has a name; a card has a name and more. -/
def classes : ClassTable := .declareAll {} [
  { ClassDecl.plain "office.Person" with
    properties := [{ name := "name", typeText := "java.lang.String" }] },
  { ClassDecl.plain "office.Card" with
    properties := ["name", "title", "phone", "nick"].map fun name =>
      { name, typeText := "java.lang.String" } }]

/-- The title is ignored, and the nickname has a default but no source. -/
def method : Method where
  name := "toCard"
  parameters := [{ name := "person", ty := .named "office.Person" }]
  returnType := .named "office.Card"
  owner := .named "office.CardMapper"
  options := {
    mappings := [
      { target := "title", ignore := true },
      { target := "nick", defaultValue := some "none" }] }

def mapper : MapperDecl where
  ty := .named "office.CardMapper"
  methods := [method]

theorem generated_body : ∃ generated mappings,
    ((mapper.generator classes {}).draft method).method = some generated ∧
      generated.body = .bean mappings ∧ mappings.map PropertyMapping.name = ["name"] :=
  ⟨_, _, rfl, rfl, rfl⟩

theorem draft_reports : ((mapper.generator classes {}).draft method).reports =
    [⟨.warning, "CardMapper#toCard", .unmappedTargets ["phone"]⟩] := by decide +kernel

/-- Four properties: one is mapped, one ignored, one reported and one lost. -/
theorem accounted_iff_not_lost_card : method ∈ mapper.abstractMethods ∧
    ((mapper.generator classes {}).options [method.options.options]).unmappedTarget = .warn ∧
    ∃ generated mappings, ((mapper.generator classes {}).draft method).method = some generated ∧
      generated.body = .bean mappings ∧ generated ∈ (mapper.generate classes {}).methods ∧
      ∃ beans properties, classes.properties method.resultType = .ok properties ∧
        Generator.beansOf classes method = .ok (beans, properties.filter Property.isWritable) ∧
        (mappings.map PropertyMapping.name).Sublist (properties.map Property.name) ∧
        ∀ property ∈ properties, property.isWritable = true →
          (method.Accounts mappings ((mapper.generator classes {}).draft method).reports
              property.name ↔
            ¬method.Loses beans property.name) := by
  have hm : method ∈ mapper.abstractMethods := by decide
  have hw : ((mapper.generator classes {}).options [method.options.options]).unmappedTarget =
    .warn := by decide
  obtain ⟨generated, mappings, hg, hb, -⟩ := generated_body
  obtain ⟨hmem, -, h⟩ := MapperDecl.accounted_iff_not_lost hm hg hb hw
  exact ⟨hm, hw, generated, mappings, hg, hb, hmem, h⟩

/-- The nickname is neither mapped nor ignored nor reported. -/
theorem not_always_accounted : ¬∀ (mapper : MapperDecl) (table : ClassTable) (settings : Settings)
    (method : Method) (generated : GeneratedMethod) (mappings : List PropertyMapping)
    (properties : List Property), method ∈ mapper.abstractMethods →
    ((mapper.generator table settings).draft method).method = some generated →
    generated.body = .bean mappings →
    ((mapper.generator table settings).options [method.options.options]).unmappedTarget = .warn →
    table.properties method.resultType = .ok properties →
    ∀ property ∈ properties, property.isWritable = true →
      method.Accounts mappings ((mapper.generator table settings).draft method).reports
        property.name := by
  intro hall
  obtain ⟨generated, mappings, hg, hb, hnames⟩ := generated_body
  obtain ⟨properties, hp, nick, hnick, hwritable, hname⟩ : ∃ properties,
      classes.properties method.resultType = .ok properties ∧
        ∃ nick ∈ properties, nick.isWritable = true ∧ nick.name = "nick" := by
    refine ⟨_, rfl, ⟨"nick", .string, true, true, false⟩, ?_, rfl, rfl⟩
    decide +kernel
  have haccounts := hall mapper classes {} method generated mappings properties (by decide) hg hb
    (by decide) hp nick hnick hwritable
  have hcount : (mappings.map PropertyMapping.name).count nick.name = 0 := by
    rw [hnames, hname]; decide
  have hreported : ¬∃ report ∈ ((mapper.generator classes {}).draft method).reports,
      report.Names nick.name := by
    rw [draft_reports, hname]
    rintro ⟨report, hr, -, names, hmessage, hn⟩
    cases List.mem_singleton.1 hr
    cases hmessage
    simp at hn
  have hignores : ¬method.Ignores nick.name := by
    rw [hname]
    rintro ⟨e, he, htarget, hignore⟩
    simp only [method, List.mem_cons, List.not_mem_nil, or_false] at he
    rcases he with rfl | rfl
    · simp at htarget
    · cases hignore
  simp [Method.Accounts, hcount, hreported, hignores] at haccounts

end Card

end BeanMapper
