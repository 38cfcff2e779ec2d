import BeanMapper.Assignment.Requirement
import BeanMapper.Method.Basic

/-!
Generated methods: where the result comes from, which callbacks run around the mapping, and how each
part of the result is obtained. A part is a property of a bean, the element of an iterable, or the
key or value of a map.
-/

namespace BeanMapper

/-- The mapping of one target property. A constant has no source path. -/
structure PropertyMapping where
  name : String
  targetType : Ty
  writeAccessor : String
  readAccessor : Option String
  sourcePath : Option String
  assignment : Assignment

/-- The mapping of the elements, keys or values of one container to those of another. -/
structure PartMapping where
  source : Ty
  result : Ty
  assignment : Assignment

/-- Where the instance comes from that a method fills: it is given, as an argument or by the form of
the result; or a factory makes it; or a constructor does. -/
inductive Creation where
  | given
  | factory (reference : Reference)
  | construct (ty : Ty)

namespace Creation

def factory? : Creation → Option Reference
  | factory reference => some reference
  | _ => none

def constructed? : Creation → Option Ty
  | construct ty => some ty
  | _ => none

end Creation

/-- What a method does to the result once it is there. -/
inductive MethodBody where
  | bean (properties : List PropertyMapping)
  | iterable (source : Parameter) (loopVariable : String) (element : PartMapping)
  | map (source : Parameter) (key value : PartMapping)

/-- The assignments of a body by the names of the parts that they produce. -/
def MethodBody.parts : MethodBody → List (String × Assignment)
  | bean properties => properties.map fun mapping => (mapping.name, mapping.assignment)
  | iterable _ _ element => [("element", element.assignment)]
  | map _ key value => [("key", key.assignment), ("value", value.assignment)]

structure GeneratedMethod extends Signature where
  creation : Creation
  before : List Reference
  after : List Reference
  nullValueMapping : NullValueMapping
  body : MethodBody

namespace GeneratedMethod

/-- The assignments by the names of the parts that they produce. -/
def parts (method : GeneratedMethod) : List (String × Assignment) := method.body.parts

def part? (method : GeneratedMethod) (name : String) : Option Assignment :=
  method.parts.lookup name

def references (method : GeneratedMethod) : List Reference :=
  method.creation.factory?.toList ++ method.before ++ method.after

def importList (method : GeneratedMethod) : List Ty :=
  method.parameters.flatMap (fun parameter => parameter.ty.imports) ++
    method.returnType.imports ++
    method.creation.constructed?.toList.flatMap Ty.imports ++
    method.references.flatMap Reference.importList ++
    method.parts.flatMap fun part => part.2.importList

def imports (method : GeneratedMethod) : List Ty := distinct method.importList

def calls (method : GeneratedMethod) : List Call :=
  method.references.map Reference.call ++ method.parts.flatMap fun part => part.2.calls

end GeneratedMethod

end BeanMapper
