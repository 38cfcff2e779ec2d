import BeanMapper.Mapper.Generated
import BeanMapper.Proofs.Generation.Coverage
import BeanMapper.Proofs.Generation.Mappings
import BeanMapper.Proofs.Generation.NestedPaths
import BeanMapper.Proofs.Text.Parts

/-!
# Source properties that no mapping reads

While the properties of a result are mapped it is noted which source properties have been looked at,
before it is known whether anything comes of them. In a generated method something has come of all:
what is noted is what the source paths of the mappings start with (`Outcome.mem_used_iff`, and for
the whole method `Generator.Drafted.mem_used_iff`). So the warning on unmapped source properties
names exactly those that no mapping reads (`MapperDecl.unread_sources_reported`). Paths are texts,
and a dot in a name would read as the end of it; names have none.
-/

namespace BeanMapper

/-! ## What a path reads first -/

def Undotted (name : String) : Prop := '.' ∉ name.toList

instance (name : String) : Decidable (Undotted name) := inferInstanceAs (Decidable ('.' ∉ name.toList))

/-- A path starts with a property of a parameter: it ends there, or goes on behind a dot. -/
def startsWith (parameter property path : String) : Bool :=
  let start := parameter ++ "." ++ property
  path = start || (start ++ ".").toList.isPrefixOf path.toList

def PropertyMapping.reads (mapping : PropertyMapping) (parameter property : String) : Bool :=
  mapping.sourcePath.any (startsWith parameter property)

theorem startsWith_iff {parameter property path : String} :
    startsWith parameter property path = true ↔
      path.toList = parameter.toList ++ '.' :: property.toList ∨
        ∃ rest, path.toList = parameter.toList ++ '.' :: (property.toList ++ '.' :: rest) := by
  have hdot : ".".toList = ['.'] := rfl
  simp only [startsWith, Bool.or_eq_true, decide_eq_true_eq, ← String.toList_inj,
    String.toList_append, hdot, List.append_assoc, List.cons_append, List.nil_append,
    List.isPrefixOf_iff_prefix]
  refine or_congr_right ⟨?_, ?_⟩
  · rintro ⟨rest, hrest⟩
    exact ⟨rest, by simp [← hrest]⟩
  · rintro ⟨rest, hrest⟩
    exact ⟨rest, by simp [hrest]⟩

/-- The name of a parameter by itself starts with no property. -/
theorem not_startsWith_of_undotted {parameter property path : String} (h : Undotted path) :
    startsWith parameter property path = false := by
  rw [← Bool.not_eq_true, startsWith_iff]
  rintro (hpath | ⟨rest, hpath⟩) <;> exact h (by simp [hpath])

/-- A path from a parameter starts with the first property that it names, and with no other. -/
theorem startsWith_dotted_iff {parameter property name first : String} {rest : List String}
    (hparameter : Undotted parameter) (hproperty : Undotted property) (hname : Undotted name)
    (hfirst : Undotted first) :
    startsWith parameter property (name ++ "." ++ String.intercalate "." (first :: rest)) = true ↔
      parameter = name ∧ property = first := by
  have hdot : ".".toList = ['.'] := rfl
  have hpath (tail : String) : (name ++ "." ++ tail).toList = name.toList ++ '.' :: tail.toList := by
    simp [hdot]
  simp only [startsWith_iff, hpath, Text.append_cons_inj hname hparameter, exists_and_left,
    ← and_or_left]
  rw [String.toList_inj, eq_comm, and_congr_right_iff]
  intro _
  cases rest with
  | nil =>
    rw [String.intercalate_singleton, String.toList_inj, eq_comm]
    refine or_iff_left ?_
    rintro ⟨tail, htail⟩
    exact hfirst (by simp [htail])
  | cons second others =>
    rw [String.intercalate_cons_cons, String.toList_append, String.toList_append, hdot,
      List.append_assoc, List.singleton_append]
    simp only [Text.append_cons_inj hfirst hproperty]
    constructor
    · rintro (hwhole | ⟨tail, hsame, -⟩)
      · exact absurd (by simp [← hwhole]) hproperty
      · exact (String.toList_inj.1 hsame).symm
    · rintro rfl
      exact Or.inr ⟨_, rfl, rfl⟩

/-! ## What a source starts at -/

/-- The names of a source parameter and of its properties have no dots. -/
structure SourceBean.IsUndotted (bean : SourceBean) : Prop where
  parameter : Undotted bean.parameter.name
  properties : ∀ property ∈ bean.properties, Undotted property.name

namespace Source

variable {table : ClassTable} {beans : List SourceBean} {parameter property : String}

/-- The path of a source, unless it is a constant. -/
def path? (source : Source) : Option String :=
  if source.value.isConstant then none else some source.value.path

theorem property_through_iff {start : Parameter} {properties : List Property}
    (hparameter : Undotted parameter) (hproperty : Undotted property)
    (hstart : Undotted start.name) (hnames : ∀ p ∈ properties, Undotted p.name) :
    (through start properties).property = some (parameter, property) ↔
      (through start properties).path?.any (startsWith parameter property) = true := by
  cases properties with
  | nil =>
    -- a whole parameter is read under its own name, which has no dot to go on behind
    have hnone : (through start []).path?.any (startsWith parameter property) = false :=
      not_startsWith_of_undotted hstart
    rw [hnone]
    exact iff_of_false nofun Bool.false_ne_true
  | cons first rest =>
    have hpath : (through start (first :: rest)).path? = some (start.name ++ "." ++
        String.intercalate "." (first.name :: rest.map Property.name)) := by
      rw [path?, (readsThrough (List.cons_ne_nil _ _)).isConstant_eq,
        (readsThrough (List.cons_ne_nil _ _)).path_eq]
      rfl
    have hstarted : (through start (first :: rest)).property = some (start.name, first.name) := by
      rw [through, List.getLast?_cons]
      rfl
    rw [hpath, hstarted, Option.any_some, startsWith_dotted_iff hparameter hproperty hstart
      (hnames first List.mem_cons_self), Option.some.injEq, Prod.mk.injEq]
    exact and_congr eq_comm eq_comm

/-- The property that a source is noted to start at is the one that its path starts with. -/
theorem property_iff_of_candidates {explicit : Option PropertyOptions} {name : String}
    {sources : List Source} {source : Source} (hbeans : ∀ bean ∈ beans, bean.IsUndotted)
    (hparameter : Undotted parameter) (hproperty : Undotted property)
    (h : candidates table beans explicit name = .ok sources) (hmem : source ∈ sources) :
    source.property = some (parameter, property) ↔
      source.path?.any (startsWith parameter property) = true := by
  rcases through_of_candidates h source hmem with ⟨text, rfl⟩ | ⟨bean, hbean, properties, rfl, hnames⟩
  · exact iff_of_false nofun Bool.false_ne_true
  · refine property_through_iff hparameter hproperty (hbeans bean hbean).parameter ?_
    rcases hnames with ⟨path, hnames⟩ | hown
    · exact fun p hp => Text.not_mem_of_mem_parts (hnames p hp)
    · exact fun p hp => (hbeans bean hbean).properties p (hown p hp)

theorem path?_of_checked {resolver : Resolver} {context : List Parameter} {source checked : Source}
    (h : source.checked resolver context = .ok checked) : checked.path? = source.path? := by
  rw [path?, value_of_checked h, path?]

end Source

/-! ## What a method reads -/

namespace Generator

variable {generator : Generator} {method : Method} {beans : List SourceBean} {target : Property}
  {outcome : Outcome} {parameter property : String}

theorem sourcePath_of_propertyMapping {explicit : Option PropertyOptions} {source : Source}
    {mapping : PropertyMapping}
    (h : generator.propertyMapping method target explicit source = .ok mapping) :
    mapping.sourcePath = source.path? := by
  unfold propertyMapping at h
  obtain ⟨assignment, -, h⟩ := bind_eq_ok h
  obtain ⟨fallback, -, h⟩ := bind_eq_ok h
  cases h
  rfl

/-- What is noted for a property without faults is what its mapping reads. -/
theorem Fate.mem_used_iff (h : Fate generator method beans target outcome)
    (hbeans : ∀ bean ∈ beans, bean.IsUndotted) (hparameter : Undotted parameter)
    (hproperty : Undotted property) :
    (parameter, property) ∈ outcome.used ↔
      ∃ mapping, outcome.mapping = some mapping ∧ mapping.reads parameter property = true := by
  cases h with
  | mapped _ hs hc hm =>
    have hstart := Source.property_iff_of_candidates hbeans hparameter hproperty hs
      (List.mem_singleton_self _)
    simp only [Option.mem_toList, hstart, Option.some.injEq, exists_eq_left',
      PropertyMapping.reads, sourcePath_of_propertyMapping hm, Source.path?_of_checked hc]
  | _ => simp

/-- **What is noted is what is read.** The source properties that have been looked at for the
properties of a generated method are those that its mappings read. -/
theorem Drafted.mem_used_iff {writable : List Property} {reports : List Report}
    {mappings : List PropertyMapping}
    (h : Drafted generator method beans writable reports mappings)
    (hbeans : ∀ bean ∈ beans, bean.IsUndotted) (hparameter : Undotted parameter)
    (hproperty : Undotted property) :
    (parameter, property) ∈ (writable.map (generator.outcome method beans)).flatMap Outcome.used ↔
      ∃ mapping ∈ mappings, mapping.reads parameter property = true := by
  simp only [h.mappings_eq, List.mem_flatMap, List.mem_filterMap, List.mem_map]
  constructor
  · rintro ⟨_, ⟨target, ht, rfl⟩, hused⟩
    obtain ⟨mapping, hmapping, hreads⟩ :=
      ((h.fate target ht).mem_used_iff hbeans hparameter hproperty).1 hused
    exact ⟨mapping, ⟨_, ⟨target, ht, rfl⟩, hmapping⟩, hreads⟩
  · rintro ⟨mapping, ⟨_, ⟨target, ht, rfl⟩, hmapping⟩, hreads⟩
    exact ⟨_, ⟨target, ht, rfl⟩,
      ((h.fate target ht).mem_used_iff hbeans hparameter hproperty).2 ⟨mapping, hmapping, hreads⟩⟩

end Generator

/-! ## The warning -/

/-- The readable source properties that none of some mappings read, in the order of the parameters
and of their properties. -/
def unreadSources (beans : List SourceBean) (mappings : List PropertyMapping) : List String :=
  beans.flatMap fun bean =>
    (bean.properties.filter fun property => property.isReadable &&
      !mappings.any (·.reads bean.parameter.name property.name)).map Property.name

def Report.isOnSources (report : Report) : Bool :=
  match report.message with
  | .unmappedSources _ => true
  | _ => false

namespace Generator

variable {generator : Generator} {method : Method} {beans : List SourceBean}
  {writable : List Property} {reports : List Report} {mappings : List PropertyMapping}

theorem Drafted.unusedSources_eq (h : Drafted generator method beans writable reports mappings)
    (hbeans : ∀ bean ∈ beans, bean.IsUndotted) :
    unusedSources beans ((writable.map (generator.outcome method beans)).flatMap Outcome.used) =
      unreadSources beans mappings := by
  rw [unusedSources, unreadSources]
  refine List.flatMap_congr fun bean hbean => congrArg _ (List.filter_congr fun property hp => ?_)
  have hused := h.mem_used_iff hbeans (hbeans bean hbean).parameter
    ((hbeans bean hbean).properties property hp)
  rw [Bool.eq_iff_iff]
  simp [hused]

/-- Of the reports of a generated method only the one on unmapped sources is on sources. -/
theorem Drafted.filter_isOnSources (h : Drafted generator method beans writable reports mappings)
    (hw : (generator.options [method.options.options]).unmappedSource = .warn)
    (hbeans : ∀ bean ∈ beans, bean.IsUndotted) :
    reports.filter Report.isOnSources =
      if (unreadSources beans mappings).isEmpty then []
      else [⟨.warning, generator.elementName method,
        .unmappedSources (unreadSources beans mappings)⟩] := by
  have htargets (policy : ReportingPolicy) (names : List String) :
      (policyReports policy (generator.elementName method) .unmappedTargets names).filter
        Report.isOnSources = [] := by
    refine List.filter_eq_nil_iff.2 fun report hreport => ?_
    rw [Report.isOnSources, message_of_mem_policyReports hreport]
    exact Bool.false_ne_true
  rw [h.reports_eq, h.unusedSources_eq hbeans, hw, List.filter_append, htargets, List.nil_append,
    policyReports]
  split <;> rfl

end Generator

/-! ## Generated mappers -/

namespace MapperDecl

/-- **Unmapped source properties are reported exactly.** Under the policy to warn, a generated bean
method comes with a warning on source properties only if there is one that none of its mappings
reads; and then with one warning, which names all of these, in the order of the source parameters
and of the properties of their types. -/
theorem unread_sources_reported {mapper : MapperDecl} {table : ClassTable} {settings : Settings}
    {method : Method} {generated : GeneratedMethod} {mappings : List PropertyMapping}
    (hm : method ∈ mapper.abstractMethods)
    (hg : ((mapper.generator table settings).draft method).method = some generated)
    (hb : generated.body = .bean mappings)
    (hw : ((mapper.generator table settings).options [method.options.options]).unmappedSource =
      .warn)
    (hparameters : ∀ parameter ∈ method.sources, Undotted parameter.name)
    (hproperties : ∀ parameter ∈ method.sources, ∀ properties,
      table.properties parameter.ty = .ok properties →
      ∀ property ∈ properties, Undotted property.name) :
    generated ∈ (mapper.generate table settings).methods ∧
      ((mapper.generator table settings).draft method).reports ⊆
        (mapper.generate table settings).reports ∧
      ∃ beans, beans.map SourceBean.parameter = method.sources ∧
        (∀ bean ∈ beans, table.properties bean.parameter.ty = .ok bean.properties) ∧
        ((mapper.generator table settings).draft method).reports.filter Report.isOnSources =
          if (unreadSources beans mappings).isEmpty then []
          else [⟨.warning, (mapper.generator table settings).elementName method,
            .unmappedSources (unreadSources beans mappings)⟩] := by
  refine ⟨mem_methods_of_draft hm hg, reports_draft_subset hm, ?_⟩
  have hbean := Generator.draft_eq_bean hg hb
  rw [hbean] at hg ⊢
  obtain ⟨beans, writable, h⟩ := Generator.bean_drafted hg hb
  have hsources := Generator.map_parameter_of_beansOf h.beans_eq
  have hread := Generator.properties_of_beansOf h.beans_eq
  refine ⟨beans, hsources, hread, h.filter_isOnSources hw fun bean hbean => ?_⟩
  have hmem : bean.parameter ∈ method.sources := hsources ▸ List.mem_map_of_mem hbean
  exact ⟨hparameters _ hmem, hproperties _ hmem _ (hread bean hbean)⟩

end MapperDecl

/-! ## Tickets for guests of hotels -/

namespace Tickets

/-- A guest has a room, that is on a floor. -/
def classes : ClassTable := .declareAll {} [
  { ClassDecl.plain "travel.Guest" with
    properties := [
      { name := "name", typeText := "java.lang.String" },
      { name := "phone", typeText := "java.lang.String" },
      { name := "room", typeText := "travel.Room" }] },
  { ClassDecl.plain "travel.Room" with
    properties := [{ name := "floor", typeText := "java.lang.String" }] },
  { ClassDecl.plain "travel.Hotel" with
    properties := ["stars", "title"].map fun name => { name, typeText := "java.lang.String" } },
  { ClassDecl.plain "travel.Ticket" with
    properties := ["floor", "name", "title"].map fun name =>
      { name, typeText := "java.lang.String" } }]

def guest : Parameter := { name := "guest", ty := .named "travel.Guest" }

def hotel : Parameter := { name := "hotel", ty := .named "travel.Hotel" }

/-- The floor on a ticket is that of the guest's room. -/
def toTicket : Method where
  name := "toTicket"
  parameters := [guest, hotel]
  returnType := .named "travel.Ticket"
  owner := .named "travel.TicketMapper"
  options := {
    options := { unmappedSource := some .warn }
    mappings := [{ target := "floor", source := some "guest.room.floor" }] }

def mapper : MapperDecl where
  ty := .named "travel.TicketMapper"
  methods := [toTicket]

theorem generated_body : ∃ generated mappings,
    ((mapper.generator classes {}).draft toTicket).method = some generated ∧
      generated.body = .bean mappings :=
  ⟨_, _, rfl, rfl⟩

theorem draft_reports : ((mapper.generator classes {}).draft toTicket).reports =
    [⟨.warning, "TicketMapper#toTicket", .unmappedSources ["phone", "stars"]⟩] := by
  decide +kernel

/-- The room of a guest is read through; nobody reads the phone and the stars. -/
theorem unread_sources_reported_ticket : toTicket ∈ mapper.abstractMethods ∧
    ((mapper.generator classes {}).options [toTicket.options.options]).unmappedSource = .warn ∧
    (∀ parameter ∈ toTicket.sources, Undotted parameter.name ∧ ∀ properties,
      classes.properties parameter.ty = .ok properties →
      ∀ property ∈ properties, Undotted property.name) ∧
    ∃ generated mappings beans,
      ((mapper.generator classes {}).draft toTicket).method = some generated ∧
      generated.body = .bean mappings ∧ generated ∈ (mapper.generate classes {}).methods ∧
      beans.map SourceBean.parameter = toTicket.sources ∧
      unreadSources beans mappings = ["phone", "stars"] := by
  have hm : toTicket ∈ mapper.abstractMethods := by decide
  have hw : ((mapper.generator classes {}).options
    [toTicket.options.options]).unmappedSource = .warn := by decide
  have hnames : ∀ parameter ∈ toTicket.sources, Undotted parameter.name ∧ ∀ properties,
      classes.properties parameter.ty = .ok properties →
      ∀ property ∈ properties, Undotted property.name := by
    have hsources : toTicket.sources = [guest, hotel] := rfl
    have hguest : classes.properties guest.ty = .ok [⟨"name", .string, true, true, false⟩,
      ⟨"phone", .string, true, true, false⟩, ⟨"room", .named "travel.Room", true, true, false⟩] := rfl
    have hhotel : classes.properties hotel.ty = .ok [⟨"stars", .string, true, true, false⟩,
      ⟨"title", .string, true, true, false⟩] := rfl
    rw [hsources, List.forall_mem_cons, List.forall_mem_singleton, hguest, hhotel]
    refine ⟨⟨by decide, ?_⟩, by decide, ?_⟩
    all_goals
      rintro properties ⟨⟩
      decide
  obtain ⟨generated, mappings, hg, hb⟩ := generated_body
  obtain ⟨hmem, -, beans, hbeans, -, hreports⟩ := MapperDecl.unread_sources_reported hm hg hb hw
    (fun parameter hparameter => (hnames parameter hparameter).1)
    (fun parameter hparameter => (hnames parameter hparameter).2)
  refine ⟨hm, hw, hnames, generated, mappings, beans, hg, hb, hmem, hbeans, ?_⟩
  rw [draft_reports] at hreports
  split at hreports
  · cases hreports
  · have hmessage : Message.unmappedSources ["phone", "stars"] =
        .unmappedSources (unreadSources beans mappings) :=
      congrArg Report.message (List.cons.inj hreports).1
    exact (Message.unmappedSources.inj hmessage).symm

end Tickets

end BeanMapper
