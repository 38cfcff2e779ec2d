import BeanMapper.Generation.Serialized
import BeanMapper.Mapper.Generated

/-!
The serialized form of generated mappers.
-/

namespace BeanMapper

def GeneratedMapper.document (mapper : GeneratedMapper) : Document := .object [
  ("mapper_type", mapper.ty.document),
  ("implementation_name", .text mapper.implementationName),
  ("implementation_package", .optionalText mapper.implementationPackage),
  ("component_model", .text (Keyworded.keyword mapper.options.componentModel)),
  ("injection_strategy", .text (Keyworded.keyword mapper.options.injectionStrategy)),
  ("suppress_generator_timestamp", .bool mapper.suppressTimestamp),
  ("component_annotations", Ty.documents mapper.componentAnnotations),
  ("annotate_with", .ofList AnnotationUse.document mapper.annotationUses),
  ("methods", .ofList GeneratedMethod.document mapper.methods),
  ("used_built_in_methods", .texts mapper.usedHelpers),
  ("used_mappers", Ty.documents mapper.usedMappers),
  ("import_types", Ty.documents mapper.imports),
  ("diagnostics", .ofList (fun report => report.diagnostic.document) mapper.reports)]

end BeanMapper
