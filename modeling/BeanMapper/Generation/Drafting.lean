import BeanMapper.Generation.Bean
import BeanMapper.Generation.Container

/-!
The draft of a declared method: it must be declared soundly, and the types of its source and its
result decide whether it maps beans, iterables or maps.
-/

namespace BeanMapper

/-- What is wrong with the declaration of a method, whatever the mapped types are. -/
def Method.declarationFaults (method : Method) : List Message :=
  let targets := method.withRole .mappingTarget
  let generic (side : String) : Message := .invalidMethodDeclaration
    ("Can't generate mapping method for a generic type variable " ++ side ++ ".")
  (if method.sources.any fun parameter => parameter.ty.isTypeVar then [generic "source"] else []) ++
    (if method.resultType.isTypeVar then [generic "target"] else []) ++
    (if (method.contexts.map Parameter.ty).Nodup then [] else [.contextTypesNotUnique]) ++
    (if targets.length > 1 then [.multipleMappingTargets] else []) ++
    (if method.sources.isEmpty then [.noSourceParameters] else []) ++
    (if method.returnType.isVoid && targets.isEmpty then [.voidWithoutMappingTarget] else [])

def Draft.ofExcept (element : String) : Except (List Message) GeneratedMethod → Draft
  | .ok method => ⟨some method, []⟩
  | .error messages => .failed element messages

namespace Generator

/-- The draft of a soundly declared method. -/
def draftSound (generator : Generator) (method : Method) : Draft :=
  let table := generator.table
  let element := generator.elementName method
  let result := method.resultType
  match method.sources with
  | [source] =>
    -- one side decides; what the other has to be is checked there
    if table.isMap source.ty || table.isMap result then
      .ofExcept element (generator.map method source)
    else if isSequence table source.ty || isSequence table result then
      .ofExcept element (generator.iterable method source)
    else generator.bean method
  | _ => generator.bean method

def draft (generator : Generator) (method : Method) : Draft :=
  match method.declarationFaults with
  | [] => generator.draftSound method
  | faults => .failed (generator.elementName method) faults

end Generator

end BeanMapper
