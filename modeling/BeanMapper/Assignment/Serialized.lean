import BeanMapper.Assignment.Requirement

/-!
The serialized form of assignments and calls.
-/

namespace BeanMapper

def Provider.document : Provider → Document
  | .mapper => .object [("kind", .text "mapper")]
  | .usedMapper owner => .object [("kind", .text "used_mapper"), ("mapper", owner.document)]
  | .helper => .object [("kind", .text "built_in")]

/-- The fields of a call, given its serialized argument. -/
def Call.fields (call : Call) (argument : Document) : List (String × Document) := [
  ("name", .text call.name),
  ("provenance", call.provider.document),
  ("bindings", .ofList Binding.document call.bindings),
  ("type_bindings", .object (call.typeBindings.map fun entry => (entry.1, entry.2.document))),
  ("return_type", call.returnType.document),
  ("thrown_types", Ty.documents call.thrownTypes),
  ("argument", argument),
  ("imports", Ty.documents call.imports)]

/-- The fields of a source value, given its serialized presence check. -/
def SourceValue.fields (value : SourceValue) (presence : Document) : List (String × Document) :=
  [("source_parameter_name", .text value.parameter),
   ("source_reference", .text value.reference),
   ("source_type", value.ty.document),
   ("source_path", .text value.path),
   ("presence_checker", presence),
   ("is_constant", .bool value.isConstant)] ++
  if value.pathChecks.isEmpty then [] else [("path_null_checks", .texts value.pathChecks)]

/-- The fields that the wrappers around container values share. -/
def Guard.fields (guard : Guard) (inner : Assignment) (decorated : Document) :
    List (String × Document) := [
  ("decorated", decorated),
  ("target_type", guard.target.document),
  ("null_check_local_var_type", (Assignment.localType guard inner).document),
  ("thrown_types_to_exclude", Ty.documents guard.excluded),
  ("field_assignment", .bool guard.isField),
  ("assignment_type", .text inner.type.name)]

def Assignment.kind : Assignment → String
  | .direct _ _ => "direct"
  | .convert _ _ => "type_conversion"
  | .call _ => "method_reference"
  | .nullCheck _ _ => "null_check"
  | .merge _ _ _ _ => "existing_instance_merge"
  | .setter _ _ _ => "setter"

mutual

def Assignment.fields : Assignment → List (String × Document)
  | .direct value presence => value.fields presence.document
  | .convert conversion argument => [
    ("source_type", conversion.source.document),
    ("target_type", conversion.target.document),
    ("expression", .text conversion.expression),
    ("import_types", Ty.documents conversion.imports),
    ("thrown_types", Ty.documents conversion.thrownTypes),
    ("argument", .object (("kind", .text argument.kind) :: argument.fields))]
  | .call reference => reference.fields
  | .nullCheck guard inner =>
    guard.fields inner (.object (("kind", .text inner.kind) :: inner.fields))
  | .merge guard check property inner =>
    guard.fields inner (.object (("kind", .text inner.kind) :: inner.fields)) ++ [
      ("include_else_branch", .bool (Assignment.mergesNull check property)),
      ("map_null_to_default", .bool (property = .setToDefault))]
  | .setter setting inner none => [
    ("decorated", .object (("kind", .text inner.kind) :: inner.fields)),
    ("target_type", setting.target.document),
    ("thrown_types_to_exclude", Ty.documents setting.excluded),
    ("include_source_null_check", .bool setting.checksSource),
    ("set_explicitly_to_null", .bool setting.resetsToNull),
    ("set_explicitly_to_default", .bool setting.resetsToDefault),
    ("default_value", .null)]
  | .setter setting inner (some fallback) => [
    ("decorated", .object (("kind", .text inner.kind) :: inner.fields)),
    ("target_type", setting.target.document),
    ("thrown_types_to_exclude", Ty.documents setting.excluded),
    ("include_source_null_check", .bool setting.checksSource),
    ("set_explicitly_to_null", .bool setting.resetsToNull),
    ("set_explicitly_to_default", .bool setting.resetsToDefault),
    ("default_value", .object (("kind", .text fallback.kind) :: fallback.fields))]

def Reference.fields : Reference → List (String × Document)
  | .mk call none => call.fields .null
  | .mk call (some argument) =>
    call.fields (.object (("kind", .text argument.kind) :: argument.fields))

def Presence.document : Presence → Document
  | .unchecked => .null
  | .accessor expression => .object [
    ("kind", .text "accessor"), ("expression", .text expression)]
  | .method reference => .object (("kind", .text "method") :: reference.fields)

end

def Assignment.document (assignment : Assignment) : Document :=
  .object (("kind", .text assignment.kind) :: assignment.fields)

def Reference.document (reference : Reference) : Document := .object reference.fields

end BeanMapper
