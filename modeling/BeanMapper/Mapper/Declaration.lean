import BeanMapper.Method.Candidate
import BeanMapper.Text.Quoted

/-!
Declarations of mappers: the methods to generate, the methods that may be called, the options, and
the annotations that the generated class is to bear.
-/

namespace BeanMapper

/-- An element of an annotation, with its values as they are written. -/
structure AnnotationElement where
  name : String
  values : List String
  deriving DecidableEq, Repr

namespace AnnotationElement

/-- An element whose values are texts, written as literals. -/
def ofTexts (name : String) (texts : List String) : AnnotationElement where
  name := name
  values := texts.map Text.quote

def document (element : AnnotationElement) : Document := .object [
  ("name", .text element.name), ("values", .texts element.values)]

end AnnotationElement

/-- An annotation that the generated class is to bear. -/
structure AnnotationUse where
  ty : Ty
  isRepeatable : Bool := false
  elements : List AnnotationElement := []
  deriving DecidableEq, Repr

namespace AnnotationUse

def element? (use : AnnotationUse) (name : String) : Option AnnotationElement :=
  use.elements.find? fun element => element.name = name

def document (use : AnnotationUse) : Document := .object [
  ("annotation", use.ty.document),
  ("repeatable", .bool use.isRepeatable),
  ("elements", .ofList AnnotationElement.document use.elements)]

end AnnotationUse

/-- A mapper that another one uses, with its methods. -/
structure UsedMapper where
  ty : Ty
  methods : List Method
  deriving DecidableEq, Repr

structure MapperDecl where
  ty : Ty
  options : OptionLayer := {}
  config : Option OptionLayer := none
  methods : List Method := []
  usedMappers : List UsedMapper := []
  annotationUses : List AnnotationUse := []
  deriving DecidableEq, Repr

namespace MapperDecl

/-- All methods that generated methods may call: the mapper's own before those of the used
mappers. -/
def candidates (mapper : MapperDecl) : List Candidate :=
  (mapper.methods ++ mapper.usedMappers.flatMap UsedMapper.methods).map Method.candidate

/-- The methods to generate. -/
def abstractMethods (mapper : MapperDecl) : List Method := mapper.methods.filter Method.isAbstract

end MapperDecl

end BeanMapper
