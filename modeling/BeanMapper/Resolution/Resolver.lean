import BeanMapper.Assignment.Basic
import BeanMapper.Selection.Selector

/-!
How a value of one type becomes a value of another. In this order: a mapping method, the value as it
is, a conversion, a helper, two mapping methods in a row, a mapping method after a conversion, a
conversion after a mapping method. Where one of these offers several ways the answer is an error,
and where a particular method is asked for only ways through a method count.
-/

namespace BeanMapper

/-- Why a value cannot be mapped. -/
inductive ResolutionError where
  | noMatch (source target : Ty)
  | ambiguous (source target : Ty) (candidates : List String)
  deriving DecidableEq, Repr

namespace ResolutionError

def message : ResolutionError → String
  | noMatch source target => "no way to map " ++ source.text ++ " to " ++ target.text
  | ambiguous source target candidates =>
    "ambiguous methods for " ++ source.text ++ " to " ++ target.text ++ ": " ++
      String.intercalate ", " candidates

def candidates : ResolutionError → List String
  | noMatch _ _ => []
  | ambiguous _ _ candidates => candidates

end ResolutionError

/-- The classes, the mapper that calls, the methods that it can call, and the helpers that it can
have. -/
structure Resolver where
  table : ClassTable
  mapper : Ty
  candidates : List Candidate
  helpers : List Candidate := Candidate.helpers

/-- A value to be mapped: from what type to what type, by what methods, and with which context
parameters at hand. -/
structure Demand where
  source : Option Ty
  target : Ty
  criteria : Criteria := .mapping
  context : List Parameter := []

namespace Resolver

/-! ## Choosing methods -/

def request (resolver : Resolver) (demand : Demand) : Request where
  table := resolver.table
  criteria := demand.criteria
  source := demand.source
  target := demand.target
  context := demand.context

def select (resolver : Resolver) (demand : Demand) : List Selected :=
  (resolver.request demand).select resolver.candidates

/-- The error of a demand that several methods answer. -/
def ambiguity (demand : Demand) (selected : List Selected) : ResolutionError :=
  .ambiguous (demand.source.getD .object) demand.target
    (selected.map fun s => s.candidate.text)

/-- The only one of the methods, if there is one. -/
def single (demand : Demand) : List Selected → Except ResolutionError (Option Selected)
  | [] => .ok none
  | [selected] => .ok (some selected)
  | selected => .error (ambiguity demand selected)

def selectUnique (resolver : Resolver) (demand : Demand) :
    Except ResolutionError (Option Selected) :=
  single demand (resolver.select demand)

/-- The method at a place in the list, if it alone answers a demand. -/
def selectExact (resolver : Resolver) (index : Nat) (demand : Demand) : Option Selected :=
  match resolver.select demand with
  | [selected] => if selected.index = index then some selected else none
  | _ => none

/-- The call of a chosen method on the value of an assignment. -/
def call (resolver : Resolver) (selected : Selected) (argument : Assignment) : Assignment :=
  .call (.apply (.ofSelected resolver.mapper selected) argument)

/-! ## Two steps -/

/-- Whether a method can be a step between two types: a mapping method of one source, not generic,
that creates its result. -/
def isStep (candidate : Candidate) : Bool :=
  candidate.flags = {} && !candidate.isUpdate && candidate.typeParameters.isEmpty &&
    candidate.sources.length = 1

/-- The methods that can be steps, with their places in the list. -/
def steps (resolver : Resolver) : List Selected :=
  (Selected.ofCandidates resolver.candidates).filter fun s => isStep s.candidate

/-- The two steps through a method first: that method and the one that takes its result. -/
def afterMethod? (resolver : Resolver) (demand : Demand) (argument : Assignment)
    (first : Selected) : Option (String × Assignment) := do
  let between := first.candidate.returnType
  if between = demand.target then none
  let inner ← resolver.selectExact first.index
    { demand with target := between, criteria := .mapping }
  match resolver.selectUnique { demand with source := some between } with
  | .ok (some outer) =>
    some (outer.candidate.text ++ " after " ++ first.candidate.text,
      resolver.call outer (resolver.call inner argument))
  | _ => none

/-- The two steps through a conversion to what a method takes. -/
def afterConversion? (resolver : Resolver) (source : Ty) (demand : Demand) (argument : Assignment)
    (step : Selected) : Option (String × Assignment) := do
  let parameter ← step.candidate.sources.head?
  let conversion ← Conversion.find? resolver.table source parameter.ty
  let selected ← resolver.selectExact step.index { demand with source := some parameter.ty }
  some (step.candidate.text,
    resolver.call selected (.convert conversion.toConversion argument))

/-- The two steps through a conversion of what a method returns. -/
def beforeConversion? (resolver : Resolver) (demand : Demand) (argument : Assignment)
    (step : Selected) : Option (String × Assignment) := do
  let between := step.candidate.returnType
  let conversion ← Conversion.find? resolver.table between demand.target
  let selected ← resolver.selectExact step.index { demand with target := between }
  some (step.candidate.text,
    .convert conversion.toConversion (resolver.call selected argument))

/-- The only one of the ways found, if there is one. -/
def onlyWay (source : Ty) (demand : Demand) :
    List (String × Assignment) → Except ResolutionError (Option Assignment)
  | [] => .ok none
  | [(_, way)] => .ok (some way)
  | ways => .error (.ambiguous source demand.target (ways.map fun way => way.1))

/-- Two steps from the source to the target. -/
def twoSteps (resolver : Resolver) (source : Ty) (demand : Demand) (argument : Assignment) :
    Except ResolutionError (Option Assignment) := do
  let steps := resolver.steps
  match ← onlyWay source demand (steps.filterMap (resolver.afterMethod? demand argument)) with
  | some way => return some way
  | none =>
    match ← onlyWay source demand
      (steps.filterMap (resolver.afterConversion? source demand argument)) with
    | some way => return some way
    | none =>
      onlyWay source demand (steps.filterMap (resolver.beforeConversion? demand argument))

/-! ## Resolution -/

/-- The ways without a declared method: the value as it is, a conversion, or a helper. -/
def unqualified (resolver : Resolver) (source : Ty) (demand : Demand) (argument : Assignment) :
    Except ResolutionError (Option Assignment) :=
  if resolver.table.isAssignable source demand.target then .ok (some argument)
  else match Conversion.find? resolver.table source demand.target with
    | some conversion => .ok (some (.convert conversion.toConversion argument))
    | none => do
      let selected ← single demand ((resolver.request demand).select resolver.helpers)
      return selected.map fun selected => resolver.call selected argument

/-- How a source value becomes a value of the target type. -/
def resolve (resolver : Resolver) (value : SourceValue) (presence : Presence) (target : Ty)
    (criteria : Criteria) (context : List Parameter) : Except ResolutionError Assignment := do
  let source := value.ty
  let demand : Demand := { source := some source, target, criteria, context }
  let argument := Assignment.direct value presence
  match ← resolver.selectUnique demand with
  | some selected => return resolver.call selected argument
  | none =>
    -- a demand for a particular method is met by methods only
    let simple ← if criteria.isQualified then pure none
      else resolver.unqualified source demand argument
    match simple with
    | some assignment => return assignment
    | none =>
      match ← resolver.twoSteps source demand argument with
      | some assignment => return assignment
      | none => throw (.noMatch source target)

/-! ## Factories, callbacks and presence checks -/

/-- The reference to a chosen method that is not applied to a value. -/
def refer (resolver : Resolver) (selected : Selected) : Reference :=
  .mk (.ofSelected resolver.mapper selected) none

/-- The factory that creates a target. If several can, those that take the source come first. -/
def factory (resolver : Resolver) (target : Ty) (source : Option Ty) (context : List Parameter) :
    Except ResolutionError (Option Reference) := do
  let demand : Demand := { source, target, criteria := .objectFactory, context }
  let selected := resolver.select demand
  let taking := selected.filter fun s => !s.candidate.sources.isEmpty
  let chosen := if source.isSome && !taking.isEmpty then taking else selected
  let only ← single demand chosen
  return only.map resolver.refer

/-- All callbacks of a timing that can be called for a target, in order of declaration. -/
def callbacks (resolver : Resolver) (timing : Timing) (source : Option Ty) (target : Ty)
    (context : List Parameter) : List Reference :=
  let selected := resolver.select { source, target, criteria := .callback, context }
  (selected.filter fun s => s.candidate.timing = some timing).map resolver.refer

/-- The method that tells whether a source is present. -/
def presenceCheck (resolver : Resolver) (source : Ty) (context : List Parameter) :
    Except ResolutionError (Option Reference) := do
  let only ← resolver.selectUnique {
    source := some source, target := .primitive .boolean, criteria := .presenceCheck, context }
  return only.map resolver.refer

end Resolver

end BeanMapper
