import BeanMapper.Generation.Source
import BeanMapper.Generation.Wrapping

/-!
Methods that map beans: every writable property of the result is mapped, left out on purpose or
reported. The explicit mappings are checked first, then the properties are mapped in order, then
what is unmapped on either side is reported, and last comes the creation of the result.
-/

namespace BeanMapper

/-- What becomes of a writable target property. -/
structure Outcome where
  name : String
  mapping : Option PropertyMapping := none
  fault : Option Message := none
  /-- Whether nothing provides the property and no explicit mapping speaks of it. -/
  isUnmapped : Bool := false
  /-- The source properties looked at, each with its parameter. -/
  used : List (String × String) := []

namespace Generator

/-! ## Explicit mappings -/

/-- What is wrong with an explicit mapping by itself or after mappings of some targets. -/
def mappingFaults (result : Ty) (writable : List Property) (seen : List String)
    (mapping : PropertyOptions) : List Message :=
  let known := writable.any fun property => property.name = mapping.target
  (if mapping.target ∈ seen then [.duplicateTargetMapping mapping.target] else []) ++
    (if !mapping.ignore && !known then [.unknownTargetProperty mapping.target result.text]
      else []) ++
    (if mapping.source.isSome && mapping.constant.isSome then
      [.sourceAndConstant mapping.target] else [])

def explicitFaults (result : Ty) (writable : List Property) :
    List String → List PropertyOptions → List Message
  | _, [] => []
  | seen, mapping :: rest =>
    mappingFaults result writable seen mapping ++
      explicitFaults result writable (mapping.target :: seen) rest

/-! ## One property -/

def propertyMessage (value : SourceValue) (target : Property) : ResolutionError → Message
  | .noMatch _ _ =>
    .propertyMappingNotFound value.ty.text value.path target.ty.text target.name
  | .ambiguous _ _ candidates => .ambiguousMappingMethods value.path target.ty.text candidates

/-- The assignment of a source to a property, without a wrapper. -/
def propertyAssignment (generator : Generator) (method : Method) (target : Property)
    (criteria : Criteria) (source : Source) : Except Message Assignment :=
  (generator.resolve source.value source.presence target.ty criteria method.contexts).mapError
    (propertyMessage source.value target)

def propertyMapping (generator : Generator) (method : Method) (target : Property)
    (explicit : Option PropertyOptions) (source : Source) : Except Message PropertyMapping := do
  let criteria : Criteria := {
    qualifiers := (explicit.map PropertyOptions.qualifiers).getD []
    resultType := explicit.bind PropertyOptions.resultType }
  let assignment ← generator.propertyAssignment method target criteria source
  let fallback ← (explicit.bind PropertyOptions.defaultValue).mapM fun text =>
    generator.propertyAssignment method target .mapping (.ofText text)
  let own := (explicit.map PropertyOptions.options).toList ++ [method.options.options]
  let wrapping : Wrapping := {
    table := generator.table
    options := generator.options own
    target
    isUpdate := method.isUpdate
    thrownTypes := method.thrownTypes
    isNullable := source.value.isNullable
    isGuarded := source.presence.isChecked || source.value.isNested }
  return {
    name := target.name
    targetType := target.ty
    writeAccessor := target.setterName
    readAccessor := if target.isReadable then some target.getterName else none
    sourcePath := if source.value.isConstant then none else some source.value.path
    assignment := wrapping.wrap assignment fallback }

def outcome (generator : Generator) (method : Method) (beans : List SourceBean)
    (target : Property) : Outcome :=
  let name := target.name
  let explicit := method.options.mappingFor? name
  let isUnmapped := explicit.isNone
  if explicit.any PropertyOptions.ignore then { name }
  else match Source.candidates generator.table beans explicit name with
    | .error fault => { name, fault := some fault, isUnmapped }
    | .ok [] => { name, isUnmapped }
    | .ok [source] =>
      -- the source counts as used, also if it turns out that it cannot be mapped
      let used := source.property.toList
      match source.checked generator.toResolver method.contexts with
      | .error fault => { name, fault := some fault, isUnmapped, used }
      | .ok source =>
        match generator.propertyMapping method target explicit source with
        | .error fault => { name, fault := some fault, used }
        | .ok mapping => { name, mapping := some mapping, used }
    -- several parameters have something to offer under the name
    | .ok sources =>
      { name
        fault := some (.ambiguousSourceProperty name)
        isUnmapped
        used := sources.filterMap Source.property }

/-! ## The method -/

def propertiesOf (table : ClassTable) (ty : Ty) : Except Message (List Property) :=
  (table.properties ty).mapError fun error => .invalidType ty.text error.message

/-- The properties of the source parameters and those of the result that can be written. -/
def beansOf (table : ClassTable) (method : Method) :
    Except Message (List SourceBean × List Property) := do
  let beans ← method.sources.mapM fun parameter => do
    return { parameter, properties := ← propertiesOf table parameter.ty : SourceBean }
  let targets ← propertiesOf table method.resultType
  return (beans, targets.filter Property.isWritable)

/-- A report on properties, if there are any, as a policy asks for. -/
def policyReports (policy : ReportingPolicy) (element : String)
    (message : List String → Message) (properties : List String) : List Report :=
  if properties.isEmpty then []
  else match policy with
    | .ignore => []
    | .warn => [⟨.warning, element, message properties⟩]
    | .error => [⟨.error, element, message properties⟩]

def unusedSources (beans : List SourceBean) (used : List (String × String)) : List String :=
  beans.flatMap fun bean =>
    (bean.properties.filter fun property =>
      property.isReadable && (bean.parameter.name, property.name) ∉ used).map Property.name

/-- The method that maps its source parameters to the properties of its result. -/
def bean (generator : Generator) (method : Method) : Draft :=
  let element := generator.elementName method
  let result := method.resultType
  match beansOf generator.table method with
  | .error message => .failed element [message]
  | .ok (beans, writable) =>
    let options := generator.options [method.options.options]
    let outcomes := writable.map (generator.outcome method beans)
    let faults := explicitFaults result writable [] method.options.mappings ++
      outcomes.filterMap Outcome.fault
    let unmapped := (outcomes.filter Outcome.isUnmapped).map Outcome.name
    let unused := unusedSources beans (outcomes.flatMap Outcome.used)
    let source := method.sources.head?.map Parameter.ty
    let creation := if method.isUpdate then .ok .given
      else generator.creation result source method.contexts
    let early := (Draft.failed element faults).reports ++
      policyReports options.unmappedTarget element .unmappedTargets unmapped ++
      policyReports options.unmappedSource element .unmappedSources unused
    -- where errors have been found already, the creation is still looked for and reported on
    match creation with
    | .error message => ⟨none, early ++ (Draft.failed element [message]).reports⟩
    | .ok creation =>
      let mapped := generator.complete method source creation options.nullValueMapping
        (.bean (outcomes.filterMap Outcome.mapping))
      ⟨if early.any Report.isError then none else some mapped, early⟩

end Generator

end BeanMapper
