import BeanMapper.Generation.Generator
import BeanMapper.Text.Quoted
import BeanMapper.Type.Property

/-!
Where the value of a target property comes from: a constant, a path that is written down, or the
properties and parameters of the same name.
-/

namespace BeanMapper

/-- A source parameter with its properties. -/
structure SourceBean where
  parameter : Parameter
  properties : List Property

/-- A value that a target property can be mapped from. The source property that it starts at, named
together with its parameter, counts as used. -/
structure Source where
  value : SourceValue
  presence : Presence := .unchecked
  property : Option (String × String) := none

namespace Source

def ofText (text : String) : Source where
  value := .constant (Text.quote text) .string

def ofParameter (parameter : Parameter) : Source where
  value := .ofParameter parameter.name parameter.ty

/-! ## Paths -/

/-- What a path has led to after a property: an expression for its value, and one that tells whether
the value is there. -/
structure Step where
  ty : Ty
  reference : String
  presence : Presence

/-- The step from an expression to a property. -/
def stepTo (reference : String) (property : Property) : Step where
  ty := property.ty
  reference := reference ++ "." ++ property.getterName ++ "()"
  presence := match property.presenceCheckerName? with
    | some checker => .accessor (reference ++ "." ++ checker ++ "()")
    | none => .unchecked

/-- The steps along the readable properties of a path, none if one of them is missing. -/
def follow (table : ClassTable) (ty : Ty) (reference : String) :
    List String → Except TypeSyntaxError (Option (List Step))
  | [] => .ok (some [])
  | name :: rest => do
    match (← table.property? ty name).filter Property.isReadable with
    | none => .ok none
    | some property =>
      let step := stepTo reference property
      return (← follow table step.ty step.reference rest).map (step :: ·)

/-- The value at the end of a path through a parameter, guarded by every expression on the way. -/
def ofSteps (parameter : Parameter) (names : List String) (steps : List Step) : Source :=
  match names, steps.getLast? with
  | first :: _, some last =>
    let path := parameter.name ++ "." ++ String.intercalate "." names
    { value := { SourceValue.ofProperty parameter.name path last.reference last.ty with
        pathChecks := steps.dropLast.map Step.reference }
      presence := last.presence
      property := some (parameter.name, first) }
  | _, _ => ofParameter parameter

/-- The parameter that a path starts from, with the properties that it leads through: the parameter
named by the first part, or else the only one there is. -/
def startOfPath? (beans : List SourceBean) (path : String) : Option (Parameter × List String) :=
  let parts := Text.parts '.' path
  match beans.find? fun bean => parts.head? = some bean.parameter.name with
  | some bean => some (bean.parameter, parts.tail)
  | none =>
    match beans with
    | [bean] => some (bean.parameter, parts)
    | _ => none

def ofPath (table : ClassTable) (beans : List SourceBean) (path : String) :
    Except Message Source :=
  match startOfPath? beans path with
  | none => .error (.unknownSourceProperty path)
  | some (parameter, names) =>
    match follow table parameter.ty parameter.name names with
    | .error error => .error (.invalidType path error.message)
    | .ok none => .error (.unknownSourceProperty path)
    | .ok (some steps) => .ok (ofSteps parameter names steps)

/-! ## Names -/

def ofProperty (parameter : Parameter) (property : Property) : Source :=
  ofSteps parameter [property.name] [stepTo parameter.name property]

/-- What a parameter has to offer under a name: its readable property, or itself if it is one of
several and bears the name. -/
def offered? (beans : List SourceBean) (name : String) (bean : SourceBean) : Option Source :=
  match bean.properties.find? fun property => property.isReadable && property.name = name with
  | some property => some (ofProperty bean.parameter property)
  | none =>
    if bean.parameter.name = name && beans.length > 1 then some (ofParameter bean.parameter)
    else none

/-- Everything that a target property can be mapped from. Only without a constant and a path do
names decide, and then there may be several answers or none. -/
def candidates (table : ClassTable) (beans : List SourceBean) (explicit : Option PropertyOptions)
    (name : String) : Except Message (List Source) :=
  match explicit.bind PropertyOptions.constant, explicit.bind PropertyOptions.source with
  | some text, _ => .ok [ofText text]
  | none, some path => (ofPath table beans path).map ([·])
  | none, none => .ok (beans.filterMap (offered? beans name))

/-! ## Presence -/

/-- The source with the check that a presence check method makes of it, which replaces the source's
own accessor. Constants and primitive values are not checked. -/
def checked (resolver : Resolver) (context : List Parameter) (source : Source) :
    Except Message Source :=
  if source.value.isConstant || source.value.ty.isPrimitive then .ok source
  else match resolver.presenceCheck source.value.ty context with
    | .error error => .error (.ambiguousPresenceChecks source.value.ty.text error.candidates)
    | .ok none => .ok source
    | .ok (some check) =>
      let argument := Assignment.direct source.value .unchecked
      .ok { source with presence := .method (.apply check.call argument) }

end Source

end BeanMapper
