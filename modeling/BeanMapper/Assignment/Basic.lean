import BeanMapper.Conversion.Basic
import BeanMapper.Selection.Basic

/-!
Assignments: how one value of a target is produced and written. At the bottom is a source value;
over it lie conversions and calls, each applied to the value of its argument; and around the whole
lie wrappers, which guard against null, fill an existing container or choose what is written
instead.
-/

namespace BeanMapper

/-! ## Parts -/

inductive Provider where
  | mapper
  | usedMapper (mapper : Ty)
  | helper
  deriving DecidableEq, Repr

/-- A call of a chosen method, apart from the value that it is applied to. -/
structure Call where
  name : String
  provider : Provider
  bindings : List Binding
  typeBindings : Ty.Bindings
  returnType : Ty
  thrownTypes : List Ty
  imports : List Ty
  deriving DecidableEq, Repr

namespace Call

/-- The class literals that a call passes. -/
def classLiterals (bindings : List Binding) : List Ty :=
  bindings.filterMap fun binding =>
    match binding.value with
    | .targetType target => some target
    | _ => none

def providerOf (mapper : Ty) (candidate : Candidate) : Provider :=
  match candidate.owner with
  | none => .helper
  | some owner => if owner = mapper then .mapper else .usedMapper owner

def ofSelected (mapper : Ty) (selected : Selected) : Call :=
  let candidate := selected.candidate
  let provider := providerOf mapper candidate
  let used := match provider with
    | .usedMapper owner => [owner]
    | _ => []
  { name := candidate.name
    provider
    bindings := selected.bindings
    typeBindings := selected.typeBindings
    returnType := candidate.returnType
    thrownTypes := candidate.thrownTypes
    imports := candidate.helperImports ++ used ++
      (classLiterals selected.bindings).flatMap Ty.imports }

end Call

/-- Where a value is read from. The path checks are the expressions on the way that must not be null
before it is read. -/
structure SourceValue where
  parameter : String
  reference : String
  ty : Ty
  path : String
  isConstant : Bool := false
  pathChecks : List String := []
  deriving DecidableEq, Repr

namespace SourceValue

/-- A whole parameter, or a loop variable. -/
def ofParameter (name : String) (ty : Ty) : SourceValue where
  parameter := name
  reference := name
  ty := ty
  path := name

def ofProperty (parameter path reference : String) (ty : Ty) : SourceValue where
  parameter := parameter
  reference := reference
  ty := ty
  path := path

def constant (literal : String) (ty : Ty) : SourceValue where
  parameter := ""
  reference := literal
  ty := ty
  path := literal
  isConstant := true

/-- Whether the value is read through other values. -/
def isNested (value : SourceValue) : Bool := !value.pathChecks.isEmpty

/-- Whether the value may be missing. A constant never is, and on a nested path any step may be. -/
def isNullable (value : SourceValue) : Bool :=
  !value.isConstant && (value.isNested || value.ty.isNullable)

end SourceValue

/-- The target of a wrapper around a container value, and the exceptions that the method around it
declares. -/
structure Guard where
  target : Ty
  excluded : List Ty := []
  isField : Bool := false
  deriving DecidableEq, Repr

/-- The target of a setter, and what is written where the source is missing. -/
structure Setting where
  target : Ty
  excluded : List Ty := []
  checksSource : Bool := false
  resetsToNull : Bool := false
  resetsToDefault : Bool := false
  deriving DecidableEq, Repr

/-! ## Trees -/

mutual

/-- How a value is produced and written. -/
inductive Assignment where
  | direct (value : SourceValue) (presence : Presence)
  | convert (conversion : Conversion) (argument : Assignment)
  | call (reference : Reference)
  | nullCheck (guard : Guard) (inner : Assignment)
  | merge (guard : Guard) (check : NullValueCheck) (property : NullValueProperty)
      (inner : Assignment)
  | setter (setting : Setting) (inner : Assignment) (fallback : Option Assignment)

/-- A call with the assignment that produces its source value, if it takes one. -/
inductive Reference where
  | mk (call : Call) (argument : Option Assignment)

/-- How it is known that a source value is there. -/
inductive Presence where
  | unchecked
  | accessor (expression : String)
  | method (reference : Reference)

end

instance : Inhabited Assignment := ⟨.direct (.constant "" .void) .unchecked⟩

namespace Presence

def isChecked : Presence → Bool
  | unchecked => false
  | accessor _ => true
  | method _ => true

end Presence

namespace Reference

def call : Reference → Call
  | mk call _ => call

def argument : Reference → Option Assignment
  | mk _ argument => argument

def apply (call : Call) (argument : Assignment) : Reference := mk call (some argument)

end Reference

/-! ## How a value is obtained -/

/-- How the value of an assignment is obtained from its source. -/
inductive AssignmentType where
  | direct
  | converted
  | mapped
  | mappedTwice
  | mappedConverted
  | convertedMapped
  deriving DecidableEq, Repr

namespace AssignmentType

def name : AssignmentType → String
  | direct => "DIRECT"
  | converted => "TYPE_CONVERTED"
  | mapped => "MAPPED"
  | mappedTwice => "MAPPED_TWICE"
  | mappedConverted => "MAPPED_TYPE_CONVERTED"
  | convertedMapped => "TYPE_CONVERTED_MAPPED"

/-- Whether a conversion takes part. Conversions do not take null. -/
def isConverted : AssignmentType → Bool
  | converted => true
  | mappedConverted => true
  | convertedMapped => true
  | _ => false

/-- What a conversion makes of its argument's way. -/
def convert : AssignmentType → AssignmentType
  | direct => converted
  | mapped => mappedConverted
  | mappedTwice => mappedConverted
  | other => other

/-- What a call makes of its argument's way. -/
def map : AssignmentType → AssignmentType
  | direct => mapped
  | converted => convertedMapped
  | mapped => mappedTwice
  | other => other

end AssignmentType

namespace Assignment

/-- How the value is obtained; wrappers change nothing. -/
def type : Assignment → AssignmentType
  | direct _ _ => .direct
  | convert _ argument => argument.type.convert
  | call (.mk _ none) => .mapped
  | call (.mk _ (some argument)) => argument.type.map
  | nullCheck _ inner => inner.type
  | merge _ _ _ inner => inner.type
  | setter _ inner _ => inner.type

def isDirect (assignment : Assignment) : Bool := assignment.type = .direct

def isWrapper : Assignment → Bool
  | nullCheck _ _ => true
  | merge _ _ _ _ => true
  | setter _ _ _ => true
  | _ => false

def inner? : Assignment → Option Assignment
  | nullCheck _ inner => some inner
  | merge _ _ _ inner => some inner
  | setter _ inner _ => some inner
  | _ => none

/-- The expression beneath all wrappers. -/
def innermost : Assignment → Assignment
  | nullCheck _ inner => inner.innermost
  | merge _ _ _ inner => inner.innermost
  | setter _ inner _ => inner.innermost
  | expression => expression

/-- The source value at the bottom, with its presence check. -/
def source? : Assignment → Option (SourceValue × Presence)
  | direct value presence => some (value, presence)
  | convert _ argument => argument.source?
  | call (.mk _ none) => none
  | call (.mk _ (some argument)) => argument.source?
  | nullCheck _ inner => inner.source?
  | merge _ _ _ inner => inner.source?
  | setter _ inner _ => inner.source?

def presence (assignment : Assignment) : Presence :=
  match assignment.source? with
  | some (_, presence) => presence
  | none => .unchecked

/-- The type of the variable that a guard reads the source value into. -/
def localType (guard : Guard) (inner : Assignment) : Ty :=
  match inner.source? with
  | some (value, _) => value.ty
  | none => guard.target

/-- Whether a merge does something where the source is null. -/
def mergesNull (check : NullValueCheck) (property : NullValueProperty) : Bool :=
  check != .always && property != .ignore

end Assignment

end BeanMapper
