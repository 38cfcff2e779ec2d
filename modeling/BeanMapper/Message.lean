import BeanMapper.Diagnostic

/-!
Everything that can be wrong with a mapper declaration, with its code and its wording. A report is a
message at a place.
-/

namespace BeanMapper

/-- The part of a container that an element mapping is for. -/
inductive ElementPosition where
  | element
  | key
  | value
  deriving DecidableEq, Repr

def ElementPosition.text : ElementPosition → String
  | .element => "iterable element"
  | .key => "map key"
  | .value => "map value"

/-- A problem of a mapper declaration. -/
inductive Message where
  | contextTypesNotUnique
  | multipleMappingTargets
  | noSourceParameters
  | voidWithoutMappingTarget
  | invalidMethodDeclaration (reason : String)
  | iterableToNonIterable (source target : String)
  | nonIterableToIterable (source target : String)
  | mapToNonMap (source target : String)
  | nonMapToMap (source target : String)
  | unknownTargetProperty (property target : String)
  | unknownSourceProperty (path : String)
  | ambiguousSourceProperty (property : String)
  | duplicateTargetMapping (property : String)
  | sourceAndConstant (property : String)
  | propertyMappingNotFound (source path target property : String)
  | ambiguousMappingMethods (path target : String) (candidates : List String)
  | elementMappingNotFound (position : ElementPosition) (source target : String)
  | ambiguousElementMapping (position : ElementPosition) (source target : String)
      (candidates : List String)
  | ambiguousFactoryMethods (target : String) (candidates : List String)
  | ambiguousPresenceChecks (source : String) (candidates : List String)
  | abstractResultType (target : String)
  | noDefaultConstructor (target : String)
  | unmappedTargets (properties : List String)
  | unmappedSources (properties : List String)
  | invalidType (text reason : String)
  | annotationNotRepeatable (name : String)
  | duplicateAnnotationElement (name element : String)
  deriving DecidableEq, Repr

namespace Message

def code : Message → String
  | contextTypesNotUnique => "MAPGEN_CONTEXT_TYPES_NOT_UNIQUE"
  | multipleMappingTargets => "MAPGEN_MULTIPLE_MAPPING_TARGETS"
  | noSourceParameters => "MAPGEN_NO_SOURCE_PARAMETERS"
  | voidWithoutMappingTarget => "MAPGEN_VOID_WITHOUT_TARGET"
  | invalidMethodDeclaration _ => "MAPGEN_INVALID_METHOD"
  | iterableToNonIterable _ _ => "MAPGEN_ITERABLE_TO_NON_ITERABLE"
  | nonIterableToIterable _ _ => "MAPGEN_NON_ITERABLE_TO_ITERABLE"
  | mapToNonMap _ _ => "MAPGEN_MAP_TO_NON_MAP"
  | nonMapToMap _ _ => "MAPGEN_NON_MAP_TO_MAP"
  | unknownTargetProperty _ _ => "MAPGEN_UNKNOWN_TARGET_PROPERTY"
  | unknownSourceProperty _ => "MAPGEN_UNKNOWN_SOURCE_PROPERTY"
  | ambiguousSourceProperty _ => "MAPGEN_AMBIGUOUS_SOURCE_PROPERTY"
  | duplicateTargetMapping _ => "MAPGEN_DUPLICATE_TARGET"
  | sourceAndConstant _ => "MAPGEN_SOURCE_AND_CONSTANT"
  | propertyMappingNotFound _ _ _ _ => "MAPGEN_PROPERTY_MAPPING_NOT_FOUND"
  | ambiguousMappingMethods _ _ _ => "MAPGEN_AMBIGUOUS_MAPPING_METHODS"
  | elementMappingNotFound _ _ _ => "MAPGEN_ELEMENT_MAPPING_NOT_FOUND"
  | ambiguousElementMapping _ _ _ _ => "MAPGEN_AMBIGUOUS_ELEMENT_MAPPING"
  | ambiguousFactoryMethods _ _ => "MAPGEN_AMBIGUOUS_FACTORY_METHODS"
  | ambiguousPresenceChecks _ _ => "MAPGEN_AMBIGUOUS_PRESENCE_CHECKS"
  | abstractResultType _ => "MAPGEN_ABSTRACT_RESULT_TYPE"
  | noDefaultConstructor _ => "MAPGEN_NO_DEFAULT_CONSTRUCTOR"
  | unmappedTargets _ => "MAPGEN_UNMAPPED_TARGET_PROPERTIES"
  | unmappedSources _ => "MAPGEN_UNMAPPED_SOURCE_PROPERTIES"
  | invalidType _ _ => "MAPGEN_INVALID_TYPE"
  | annotationNotRepeatable _ => "MAPGEN_ANNOTATION_NOT_REPEATABLE"
  | duplicateAnnotationElement _ _ => "MAPGEN_DUPLICATE_ANNOTATION_ELEMENT"

def listed (items : List String) : String := String.intercalate ", " items

def advice (source target : String) : String :=
  s!"Consider to declare/implement a mapping method: \"{target} map({source} value)\"."

def text : Message → String
  | contextTypesNotUnique => "The types of @Context parameters must be unique."
  | multipleMappingTargets => "Method has more than one @MappingTarget parameter."
  | noSourceParameters => "Can't generate mapping method with no input arguments."
  | voidWithoutMappingTarget => "Can't generate mapping method with return type void."
  | invalidMethodDeclaration reason => reason
  | iterableToNonIterable source target =>
    s!"Can't generate mapping method from iterable type {source} to non-iterable type {target}."
  | nonIterableToIterable source target =>
    s!"Can't generate mapping method from non-iterable type {source} to iterable type {target}."
  | mapToNonMap source target =>
    s!"Can't generate mapping method from map type {source} to non-map type {target}."
  | nonMapToMap source target =>
    s!"Can't generate mapping method from non-map type {source} to map type {target}."
  | unknownTargetProperty property target =>
    s!"Unknown property \"{property}\" in result type {target}."
  | unknownSourceProperty path =>
    s!"No property named \"{path}\" exists in source parameter(s)."
  | ambiguousSourceProperty property =>
    s!"Several possible source properties for target property \"{property}\"."
  | duplicateTargetMapping property =>
    s!"Target property \"{property}\" must not be mapped more than once."
  | sourceAndConstant property =>
    s!"Source and constant are both defined for target property \"{property}\"."
  | propertyMappingNotFound source path target property =>
    s!"Can't map property \"{source} {path}\" to \"{target} {property}\". " ++ advice source target
  | ambiguousMappingMethods path target candidates =>
    s!"Ambiguous mapping methods found for mapping property \"{path}\" to {target}: " ++
      listed candidates ++ "."
  | elementMappingNotFound position source target =>
    "Can't map " ++ position.text ++ s!" \"{source}\" to \"{target}\". " ++ advice source target
  | ambiguousElementMapping position source target candidates =>
    "Ambiguous mapping methods found for mapping " ++ position.text ++
      s!" \"{source}\" to {target}: " ++ listed candidates ++ "."
  | ambiguousFactoryMethods target candidates =>
    s!"Ambiguous factory methods found for creating {target}: " ++ listed candidates ++ "."
  | ambiguousPresenceChecks source candidates =>
    s!"Ambiguous presence check methods found for checking {source}: " ++ listed candidates ++ "."
  | abstractResultType target =>
    s!"The return type {target} is an abstract class or interface. " ++
      "Provide a non abstract / non interface result type or a factory method."
  | noDefaultConstructor target =>
    s!"{target} does not have an accessible parameterless constructor."
  | unmappedTargets properties =>
    "Unmapped target properties: \"" ++ listed properties ++ "\"."
  | unmappedSources properties =>
    "Unmapped source properties: \"" ++ listed properties ++ "\"."
  | invalidType text reason => s!"Invalid type \"{text}\": {reason}."
  | annotationNotRepeatable name =>
    s!"Annotation \"{name}\" is already present and it is not repeatable."
  | duplicateAnnotationElement name element =>
    s!"Parameter \"{element}\" must not be defined more than once for annotation \"{name}\"."

end Message

/-- A message about a declaration. -/
structure Report where
  severity : Severity
  element : String
  message : Message
  deriving DecidableEq, Repr

namespace Report

/-- The diagnostic that a report is shown as. -/
def diagnostic (report : Report) : Diagnostic where
  severity := report.severity
  code := report.message.code
  message := report.message.text
  element := some report.element

def isError (report : Report) : Bool := report.severity = .error

end Report

end BeanMapper
