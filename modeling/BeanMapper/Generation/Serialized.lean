import BeanMapper.Assignment.Serialized
import BeanMapper.Generation.Method

/-!
The serialized form of generated methods.
-/

namespace BeanMapper

def PropertyMapping.document (mapping : PropertyMapping) : Document := .object [
  ("name", .text mapping.name),
  ("target_type", mapping.targetType.document),
  ("target_write_accessor", .text mapping.writeAccessor),
  ("target_read_accessor", .optionalText mapping.readAccessor),
  ("source_path", .optionalText mapping.sourcePath),
  ("assignment", mapping.assignment.document)]

def PartMapping.fields (part : PartMapping) (name : String) : List (String × Document) := [
  ("source_" ++ name ++ "_type", part.source.document),
  ("result_" ++ name ++ "_type", part.result.document),
  (name ++ "_assignment", part.assignment.document)]

def MethodBody.fields : MethodBody → List (String × Document)
  | bean properties => [
    ("kind", .text "bean"),
    ("property_mappings", .ofList PropertyMapping.document properties)]
  | iterable source loopVariable element => [
    ("kind", .text "iterable"),
    ("source_parameter", source.document),
    ("element_variable", .text loopVariable)] ++ element.fields "element"
  | map source key value => [
    ("kind", .text "map"),
    ("source_parameter", source.document)] ++ key.fields "key" ++ value.fields "value"

def GeneratedMethod.document (method : GeneratedMethod) : Document := .object <|
  method.body.fields ++ [
  ("name", .text method.name),
  ("parameters", .ofList Parameter.document method.parameters),
  ("return_type", method.returnType.document),
  ("result_type", method.resultType.document),
  ("is_update", .bool method.isUpdate),
  ("factory", .optional Reference.document method.creation.factory?),
  ("instantiation_type", .optional Ty.document method.creation.constructed?),
  ("before_mappings", .ofList Reference.document method.before),
  ("after_mappings", .ofList Reference.document method.after),
  ("null_value_mapping_strategy", .text (Keyworded.keyword method.nullValueMapping)),
  ("thrown_types", Ty.documents method.thrownTypes)]

end BeanMapper
