import BeanMapper.Generation.Generator

/-!
Methods that map a container part by part: an iterable or an array element by element, a map entry
by entry.
-/

namespace BeanMapper.Generator

/-- Whether a type is mapped element by element. -/
def isSequence (table : ClassTable) (ty : Ty) : Bool := table.isIterable ty || ty.isArray

def partMessage (position : ElementPosition) (source result : Ty) : ResolutionError → Message
  | .noMatch _ _ => .elementMappingNotFound position source.text result.text
  | .ambiguous _ _ candidates =>
    .ambiguousElementMapping position source.text result.text candidates

def partMapping (generator : Generator) (method : Method) (position : ElementPosition)
    (options : ElementOptions) (expression : String) (source result : Ty) :
    Except Message PartMapping :=
  match generator.resolve (.ofParameter expression source) .unchecked result
    (.ofElement options) method.contexts with
  | .ok assignment => .ok { source, result, assignment }
  | .error error => .error (partMessage position source result error)

/-- Where the container comes from that is filled. An array is made with its elements. -/
def containerCreation (generator : Generator) (method : Method) (source : Ty) :
    Except Message Creation :=
  if method.isUpdate then .ok .given
  else generator.creation method.resultType (some source) method.contexts

/-! ## Iterables -/

/-- The name of a loop variable for elements of a type: the first letter of a primitive type, else
the name of the class, and a digit behind it where the loop runs over a parameter of that name. -/
def loopVariable (element : Ty) (parameter : String) : String :=
  let named := match element.primitive? with
    | some p => String.ofList (p.name.toList.take 1)
    | none => Text.decapitalize (Text.replace "[]" "Array" element.simpleName)
  let base := if named.isEmpty then "element" else named
  if base = parameter then base ++ "1" else base

def iterable (generator : Generator) (method : Method) (source : Parameter) :
    Except (List Message) GeneratedMethod := do
  let table := generator.table
  let result := method.resultType
  if !isSequence table source.ty then
    throw [.nonIterableToIterable source.ty.text result.text]
  if !isSequence table result then
    throw [.iterableToNonIterable source.ty.text result.text]
  match table.elementType? source.ty, table.elementType? result with
  | some sourceElement, some resultElement =>
    let name := loopVariable sourceElement source.name
    let element ← (generator.partMapping method .element method.options.element name
      sourceElement resultElement).mapError ([·])
    let creation ← if result.isArray then pure .given
      else (generator.containerCreation method source.ty).mapError ([·])
    let options := generator.options [method.options.options]
    return generator.complete method (some source.ty) creation options.nullValueIterable
      (.iterable source name element)
  -- no view says what the elements are: there is no method, and no message either
  | _, _ => throw []

/-! ## Maps -/

/-- Both of two results, or the messages of those that failed. -/
def both : Except Message α → Except Message β → Except (List Message) (α × β)
  | .ok a, .ok b => .ok (a, b)
  | .error m, .ok _ => .error [m]
  | .ok _, .error n => .error [n]
  | .error m, .error n => .error [m, n]

def map (generator : Generator) (method : Method) (source : Parameter) :
    Except (List Message) GeneratedMethod := do
  let table := generator.table
  let result := method.resultType
  if !table.isMap source.ty then throw [.nonMapToMap source.ty.text result.text]
  if !table.isMap result then throw [.mapToNonMap source.ty.text result.text]
  match table.entryTypes? source.ty, table.entryTypes? result with
  | some (sourceKey, sourceValue), some (resultKey, resultValue) =>
    let (key, value) ← both
      (generator.partMapping method .key method.options.key "entry.getKey()"
        sourceKey resultKey)
      (generator.partMapping method .value method.options.value "entry.getValue()"
        sourceValue resultValue)
    let creation ← (generator.containerCreation method source.ty).mapError ([·])
    let options := generator.options [method.options.options]
    return generator.complete method (some source.ty) creation options.nullValueMap
      (.map source key value)
  -- as for elements, no view says what the keys and the values are
  | _, _ => throw []

end BeanMapper.Generator
