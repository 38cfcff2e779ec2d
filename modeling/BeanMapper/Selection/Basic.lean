import BeanMapper.Method.Candidate
import BeanMapper.Type.Hierarchy

/-!
What is asked of a method (`Criteria`, `Request`) and what it is called with once it has been chosen
(`Selected`).
-/

namespace BeanMapper

/-- What a parameter receives at the place of the call. -/
inductive BoundValue where
  | sourceValue
  | mappingTarget
  | targetType (target : Ty)
  | context (argument : String)
  deriving DecidableEq, Repr

/-- A parameter with what it receives. -/
structure Binding where
  parameter : String
  ty : Ty
  value : BoundValue
  deriving DecidableEq, Repr

def Binding.document (binding : Binding) : Document :=
  let fields : List (String × Document) := match binding.value with
    | .sourceValue => [("kind", .text "source_value")]
    | .mappingTarget => [("kind", .text "mapping_target")]
    | .targetType target => [("kind", .text "target_type"), ("target", target.document)]
    | .context argument => [("kind", .text "context"), ("argument", .text argument)]
  .object ([("parameter", .text binding.parameter), ("ty", binding.ty.document)] ++ fields)

/-- A candidate with its place in the list of candidates, the values of its parameters and those of
its type parameters. -/
structure Selected where
  index : Nat
  candidate : Candidate
  bindings : List Binding := []
  typeBindings : Ty.Bindings := []
  deriving DecidableEq, Repr

/-- The properties that a method has to have. -/
structure Criteria where
  required : Flags := {}
  qualifiers : List String := []
  resultType : Option Ty := none
  prefersUpdate : Bool := false
  deriving DecidableEq, Repr, Inhabited

namespace Criteria

def mapping : Criteria := {}

def objectFactory : Criteria := { required := Family.objectFactory.flags }

def callback : Criteria := { required := (Family.callback .beforeMapping).flags }

def presenceCheck : Criteria := { required := Family.presenceCheck.flags }

/-- Asks for the mapping methods that an element mapping is configured for. -/
def ofElement (options : ElementOptions) : Criteria where
  qualifiers := options.qualifiers
  resultType := options.resultType

/-- Whether a particular method is asked for, so that nothing but a method will do. -/
def isQualified (criteria : Criteria) : Bool :=
  !criteria.qualifiers.isEmpty || criteria.resultType.isSome

end Criteria

/-- All that decides which methods can be called: the classes, the criteria, the type of the source
value if there is one, the type asked for, and the context parameters of the caller. -/
structure Request where
  table : ClassTable
  criteria : Criteria
  source : Option Ty
  target : Ty
  context : List Parameter := []

end BeanMapper
