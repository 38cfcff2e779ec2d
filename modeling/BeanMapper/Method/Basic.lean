import BeanMapper.Options.Layer
import BeanMapper.Type.Serialized

/-!
Methods: what a method takes and gives, which family it belongs to, and how it is configured. A
method belongs to one family only, and a callback returns nothing but the target that it was given.
-/

namespace BeanMapper

/-! ## Parameters -/

/-- What a parameter stands for in a call. -/
inductive ParameterRole where
  | source
  | mappingTarget
  | targetType
  | context
  deriving DecidableEq, Repr

def ParameterRole.name : ParameterRole → String
  | .source => "source"
  | .mappingTarget => "mapping_target"
  | .targetType => "target_type"
  | .context => "context"

structure Parameter where
  name : String
  ty : Ty
  role : ParameterRole := .source
  deriving DecidableEq, Repr

def Parameter.document (parameter : Parameter) : Document := .object [
  ("name", .text parameter.name),
  ("ty", parameter.ty.document),
  ("role", .text parameter.role.name)]

/-! ## Families -/

/-- When a callback runs. -/
inductive Timing where
  | beforeMapping
  | afterMapping
  deriving DecidableEq, Repr

def Timing.name : Timing → String
  | .beforeMapping => "before_mapping"
  | .afterMapping => "after_mapping"

/-- What a method is for. -/
inductive Family where
  | mapping
  | objectFactory
  | callback (timing : Timing)
  | presenceCheck
  deriving DecidableEq, Repr

namespace Family

def name : Family → String
  | mapping => "mapping"
  | objectFactory => "object_factory"
  | callback _ => "lifecycle_callback"
  | presenceCheck => "presence_check"

def text : Family → String
  | mapping => "mapping method"
  | objectFactory => "object factory"
  | callback _ => "lifecycle callback"
  | presenceCheck => "presence check"

/-- When the members of the family run, if they are callbacks. -/
def timing? : Family → Option Timing
  | callback timing => some timing
  | _ => none

end Family

/-- The marks of a method that is no mapping method. -/
structure Flags where
  isFactory : Bool := false
  isCallback : Bool := false
  isPresenceCheck : Bool := false
  deriving DecidableEq, Repr, Inhabited

def Family.flags : Family → Flags
  | mapping => {}
  | objectFactory => { isFactory := true }
  | callback _ => { isCallback := true }
  | presenceCheck => { isPresenceCheck := true }

/-- The family that marks stand for; of several the first counts. Marks tell nothing of a timing. -/
def Flags.family (flags : Flags) : Family :=
  if flags.isFactory then .objectFactory
  else if flags.isCallback then .callback .beforeMapping
  else if flags.isPresenceCheck then .presenceCheck
  else .mapping

def Flags.any (flags : Flags) : Bool :=
  flags.isFactory || flags.isCallback || flags.isPresenceCheck

/-! ## Signatures -/

/-- What a method takes, gives and throws. -/
structure Signature where
  name : String
  parameters : List Parameter := []
  returnType : Ty
  thrownTypes : List Ty := []
  typeParameters : List String := []
  qualifiers : List String := []
  deriving DecidableEq, Repr

namespace Signature

def withRole (signature : Signature) (role : ParameterRole) : List Parameter :=
  signature.parameters.filter fun parameter => parameter.role = role

/-- The parameters that receive the values being mapped. -/
def sources (signature : Signature) : List Parameter := signature.withRole .source

/-- The parameters that are passed through from the caller. -/
def contexts (signature : Signature) : List Parameter := signature.withRole .context

/-- The parameter that receives the instance being updated. -/
def mappingTarget? (signature : Signature) : Option Parameter :=
  signature.parameters.find? fun parameter => parameter.role = .mappingTarget

/-- Whether the method updates an instance that it is given. -/
def isUpdate (signature : Signature) : Bool := signature.mappingTarget?.isSome

/-- The type that the method produces: that of the instance it updates, or what it returns. -/
def resultType (signature : Signature) : Ty :=
  match signature.mappingTarget? with
  | some target => target.ty
  | none => signature.returnType

/-- The signature in words, after its owner if it has one. -/
def text (signature : Signature) (owner : Option Ty) : String :=
  let parameters := signature.parameters.map fun p => p.ty.simpleName ++ " " ++ p.name
  let before := match owner with
    | some ty => ty.simpleName ++ "."
    | none => ""
  signature.returnType.simpleName ++ " " ++ before ++ signature.name ++ "(" ++
    String.intercalate ", " parameters ++ ")"

end Signature

/-! ## Configuration -/

/-- How the mapping of an element, a key or a value is chosen. -/
structure ElementOptions where
  qualifiers : List String := []
  resultType : Option Ty := none
  deriving DecidableEq, Repr, Inhabited

namespace ElementOptions

def isEmpty (options : ElementOptions) : Bool :=
  options.qualifiers.isEmpty && options.resultType.isNone

def document (options : ElementOptions) : Document := .object [
  ("qualifiers", .texts options.qualifiers),
  ("result_type", .optional Ty.document options.resultType)]

end ElementOptions

/-- The explicit mapping of one target property. -/
structure PropertyOptions where
  target : String
  source : Option String := none
  constant : Option String := none
  defaultValue : Option String := none
  ignore : Bool := false
  qualifiers : List String := []
  resultType : Option Ty := none
  options : OptionLayer := {}
  deriving DecidableEq, Repr

def PropertyOptions.document (mapping : PropertyOptions) : Document := .object [
  ("target", .text mapping.target),
  ("source", .optionalText mapping.source),
  ("constant", .optionalText mapping.constant),
  ("default_value", .optionalText mapping.defaultValue),
  ("ignore", .bool mapping.ignore),
  ("qualifiers", .texts mapping.qualifiers),
  ("result_type", .optional Ty.document mapping.resultType),
  ("options", mapping.options.document)]

structure MethodOptions where
  options : OptionLayer := {}
  mappings : List PropertyOptions := []
  element : ElementOptions := {}
  key : ElementOptions := {}
  value : ElementOptions := {}
  deriving DecidableEq, Repr, Inhabited

namespace MethodOptions

/-- The first explicit mapping of a target property. -/
def mappingFor? (options : MethodOptions) (target : String) : Option PropertyOptions :=
  options.mappings.find? fun mapping => mapping.target = target

def document (options : MethodOptions) : Document := .object [
  ("options", options.options.document),
  ("mappings", .ofList PropertyOptions.document options.mappings),
  ("element", options.element.document),
  ("key", options.key.document),
  ("value", options.value.document)]

end MethodOptions

/-! ## Declared methods -/

/-- A method that a class declares. Abstract methods are those that a mapper has to generate. -/
structure Method extends Signature where
  owner : Ty
  family : Family := .mapping
  isAbstract : Bool := true
  options : MethodOptions := {}
  deriving DecidableEq, Repr

/-- Why a method cannot be declared. -/
inductive MethodError where
  | conflictingFamilies (method : String) (first second : Family)
  | callbackWithResult (method : String)
  deriving DecidableEq, Repr

def MethodError.message : MethodError → String
  | conflictingFamilies method first second =>
    s!"method `{method}` is declared as both " ++ first.text ++ " and " ++ second.text
  | callbackWithResult method =>
    s!"lifecycle method `{method}` must return void or its mapping target"

inductive Marker where
  | family (family : Family)
  | implemented
  deriving DecidableEq, Repr

namespace Method

def familiesOf (markers : List Marker) : List Family :=
  markers.filterMap fun marker =>
    match marker with
    | .family family => some family
    | .implemented => none

/-- Whether a callback may return what the signature returns. -/
def returnsTarget (signature : Signature) : Bool :=
  signature.returnType.isVoid || signature.parameters.any fun parameter =>
    parameter.role = .mappingTarget && parameter.ty = signature.returnType

/-- Declares a method. Without markers it is an abstract mapping method; of two timings the later
counts. -/
def declare (signature : Signature) (owner : Ty) (markers : List Marker)
    (options : MethodOptions) : Except MethodError Method :=
  match familiesOf markers with
  | [] => .ok { signature with owner, isAbstract := markers.isEmpty, options }
  | first :: rest =>
    match rest.find? fun other => other.name != first.name with
    | some second => .error (.conflictingFamilies signature.name first second)
    | none =>
      -- the families are of one name now, and differ in their timing at most
      let family := rest.getLastD first
      if family.timing?.isSome && !returnsTarget signature then
        .error (.callbackWithResult signature.name)
      else .ok { signature with owner, family, isAbstract := false, options }

def document (method : Method) : Document := .object [
  ("name", .text method.name),
  ("declaring_type", method.owner.document),
  ("parameters", .ofList Parameter.document method.parameters),
  ("return_type", method.returnType.document),
  ("thrown_types", Ty.documents method.thrownTypes),
  ("type_parameters", .texts method.typeParameters),
  ("qualifiers", .texts method.qualifiers),
  ("family", .text method.family.name),
  ("lifecycle_timing", .optional (fun t => .text t.name) method.family.timing?),
  ("is_abstract", .bool method.isAbstract)]

end Method

end BeanMapper
