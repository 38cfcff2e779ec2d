import BeanMapper.Selection.Matching

/-!
The choice of methods. Six selectors narrow the candidates one after the other, each keeping the
order of those that remain. If one remains it is called, if several do the request is ambiguous.
-/

namespace BeanMapper

/-- A step of the choice. -/
inductive Selector where
  | type
  | family
  | qualifier
  | targetType
  | inheritance
  | createOrUpdate
  deriving DecidableEq, Repr

namespace Selector

/-- The steps in their usual order. -/
def chain : List Selector := [type, family, qualifier, targetType, inheritance, createOrUpdate]

def name : Selector → String
  | type => "type"
  | family => "family"
  | qualifier => "qualifier"
  | targetType => "target-type"
  | inheritance => "inheritance"
  | createOrUpdate => "create-or-update"

/-- Whether a method has the qualifiers that are asked for. A method with qualifiers is chosen only
where one is asked for. -/
def isQualifiedFor (request : Request) (candidate : Candidate) : Bool :=
  match request.criteria.qualifiers with
  | [] => candidate.qualifiers.isEmpty
  | requested => requested.all fun q => q ∈ candidate.qualifiers

/-- The distance of a generic source parameter, beyond that of every class. -/
def genericRank : Nat := 18446744073709551614

/-- The distance of a source parameter that the source type does not lead to. -/
def unrelatedRank : Nat := 18446744073709551615

/-- How far the source parameter of a method is from the source type. -/
def sourceRank (table : ClassTable) (source : Ty) (candidate : Candidate) : Nat :=
  match candidate.sources with
  | [] => 0
  | parameter :: _ =>
    if parameter.ty.isTypeVar then genericRank
    else (table.distance? source parameter.ty.qualifiedName).getD unrelatedRank

/-- The members of a list with the least rank. -/
def nearest (rank : α → Nat) (members : List α) : List α :=
  match (members.map rank).min? with
  | some least => members.filter fun m => rank m = least
  | none => []

def apply (request : Request) (selected : List Selected) : Selector → List Selected
  | type => selected.filterMap fun s =>
    (Matching.bind? request s.candidate).map fun (bindings, typeBindings) =>
      { s with bindings, typeBindings }
  | family => selected.filter fun s => s.candidate.flags = request.criteria.required
  | qualifier => selected.filter fun s => isQualifiedFor request s.candidate
  | targetType =>
    match request.criteria.resultType with
    | none => selected
    | some requested =>
      if request.criteria.required.isCallback || request.criteria.required.isPresenceCheck then
        selected
      else selected.filter fun s => s.candidate.resultType.sameErasure requested
  | inheritance =>
    match request.source with
    | none => selected
    | some source =>
      if selected.length < 2 || request.criteria.required.isCallback then selected
      else nearest (fun s => sourceRank request.table source s.candidate) selected
  | createOrUpdate =>
    if request.criteria.required.any then selected
    else
      let updates := selected.filter fun s => s.candidate.isUpdate
      if request.criteria.prefersUpdate && !updates.isEmpty then updates
      else selected.filter fun s => !s.candidate.isUpdate

end Selector

/-- The candidates of a list before any is chosen or bound. -/
def Selected.ofCandidates (candidates : List Candidate) : List Selected :=
  candidates.zipIdx.map fun (candidate, index) => { index, candidate }

namespace Request

/-- The survivors of each step of a chain. -/
def stages (request : Request) : List Selector → List Selected → List (Selector × List Selected)
  | [], _ => []
  | selector :: rest, selected =>
    let survivors := selector.apply request selected
    (selector, survivors) :: stages request rest survivors

/-- The members of a list that a chain of steps leaves. Where none is left no further step is
taken. -/
def narrow (request : Request) : List Selector → List Selected → List Selected
  | [], selected => selected
  | selector :: rest, selected =>
    match selector.apply request selected with
    | [] => []
    | survivors => narrow request rest survivors

/-- The candidates that a chain of steps leaves. -/
def selectBy (request : Request) (chain : List Selector) (candidates : List Candidate) :
    List Selected :=
  request.narrow chain (Selected.ofCandidates candidates)

def select (request : Request) (candidates : List Candidate) : List Selected :=
  request.selectBy Selector.chain candidates

end Request

end BeanMapper
