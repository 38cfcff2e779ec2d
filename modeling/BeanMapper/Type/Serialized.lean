import BeanMapper.Document
import BeanMapper.Type.Property

/-!
The serialized form of types, properties and class declarations. A type is its written form.
-/

namespace BeanMapper

namespace Ty

def document (ty : Ty) : Document := .text ty.text

def documents (tys : List Ty) : Document := .ofList document tys

end Ty

def Property.document (property : Property) : Document := .object [
  ("name", .text property.name),
  ("ty", property.ty.document),
  ("readable", .bool property.isReadable),
  ("writable", .bool property.isWritable),
  ("has_presence_checker", .bool property.hasPresenceChecker),
  ("getter", .text property.getterName),
  ("setter", .text property.setterName),
  ("presence_checker", .optionalText property.presenceCheckerName?)]

def ClassKind.name : ClassKind → String
  | .plain => "class"
  | .interface => "interface"
  | .enumeration => "enum"
  | .record => "record"

def PropertyDecl.document (decl : PropertyDecl) : Document := .object [
  ("name", .text decl.name),
  ("ty", .text decl.typeText),
  ("getter", .bool decl.hasGetter),
  ("setter", .bool decl.hasSetter),
  ("presence_checker", .bool decl.hasPresenceChecker)]

def ClassDecl.document (decl : ClassDecl) : Document := .object [
  ("name", .text decl.name),
  ("kind", .text decl.kind.name),
  ("is_abstract", .bool decl.isAbstract),
  ("type_params", .texts decl.typeParams),
  ("supertypes", .texts decl.supertypes),
  ("properties", .ofList PropertyDecl.document decl.properties),
  ("has_default_constructor", .bool decl.hasDefaultConstructor),
  ("is_immutable", .bool decl.isImmutable),
  ("enum_constants", .texts decl.enumConstants)]

end BeanMapper
