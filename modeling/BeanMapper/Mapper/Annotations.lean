import BeanMapper.Mapper.Declaration
import BeanMapper.Message

/-!
Annotations of the generated class: those that its declaration asks for, as far as they can stand
together, and those that its component model adds.
-/

namespace BeanMapper

/-- The first name of a list that an earlier member bears too. -/
def firstRepeated? (seen : List String) : List String → Option String
  | [] => none
  | name :: rest => if name ∈ seen then some name else firstRepeated? (name :: seen) rest

namespace AnnotationUse

/-- Why an annotation cannot stand beside those that are kept already. -/
def fault? (kept : List AnnotationUse) (use : AnnotationUse) : Option Message :=
  if !use.isRepeatable && kept.any (fun other => other.ty = use.ty) then
    some (.annotationNotRepeatable use.ty.qualifiedName)
  else (firstRepeated? [] (use.elements.map AnnotationElement.name)).map
    (.duplicateAnnotationElement use.ty.qualifiedName)

/-- Goes through the annotations in order and keeps those that can stand; the others leave
messages. -/
def keep : List AnnotationUse → List AnnotationUse → List AnnotationUse × List Message
  | kept, [] => (kept, [])
  | kept, use :: rest =>
    match use.fault? kept with
    | none => keep (kept ++ [use]) rest
    | some message =>
      let (kept, messages) := keep kept rest
      (kept, message :: messages)

end AnnotationUse

namespace ComponentModel

/-- The annotations by which a class already is a component of Spring. -/
def stereotypes : List String := [
  "org.springframework.stereotype.Component",
  "org.springframework.stereotype.Service",
  "org.springframework.stereotype.Repository",
  "org.springframework.stereotype.Controller",
  "org.springframework.web.bind.annotation.RestController",
  "org.springframework.context.annotation.Configuration"]

/-- The names of the annotations that a component model adds to a class that bears others. -/
def addedNames (kept : List AnnotationUse) : ComponentModel → List String
  | .default => []
  | .spring =>
    if kept.any fun use => stereotypes.contains use.ty.qualifiedName then []
    else ["org.springframework.stereotype.Component"]
  | .cdi => ["javax.enterprise.context.ApplicationScoped"]
  | .jsr330 => ["javax.inject.Named", "javax.inject.Singleton"]
  | .jakarta => ["jakarta.inject.Named", "jakarta.inject.Singleton"]

end ComponentModel

end BeanMapper
