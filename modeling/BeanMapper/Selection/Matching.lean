import BeanMapper.Selection.Basic

/-!
Matching the types of a signature against the types at hand. Type parameters of the method are bound
on the way: a parameter may take a subtype of its type, a result may go where a supertype is asked
for, and type arguments have to agree exactly. A match that fails leaves no bindings behind.
-/

namespace BeanMapper

namespace Ty.Bindings

/-- Sets the value of a variable; a variable that has one keeps its place. -/
def insert (bindings : Ty.Bindings) (name : String) (value : Ty) : Ty.Bindings :=
  if (bindings.lookup name).isSome then
    bindings.map fun entry => if entry.1 = name then (name, value) else entry
  else bindings ++ [(name, value)]

end Ty.Bindings

namespace Matching

def isVar (vars : List String) : Ty → Bool
  | .typeVar name => name ∈ vars
  | _ => false

mutual

/-- Whether a type mentions one of the variables. -/
def mentions (vars : List String) : Ty → Bool
  | .typeVar name => name ∈ vars
  | .declared _ args => mentionsAny vars args
  | .array component => mentions vars component
  | _ => false

def mentionsAny (vars : List String) : List Ty → Bool
  | [] => false
  | ty :: rest => mentions vars ty || mentionsAny vars rest

end

mutual

/-- Matches a type argument. Without a variable it has to be the same type, and a type variable of
another origin takes anything. -/
def exact (vars : List String) (bindings : Ty.Bindings) : Ty → Ty → Option Ty.Bindings
  | .typeVar name, actual =>
    if name ∈ vars then
      match bindings.value? name with
      -- a variable keeps the value that it was given first
      | some bound => if bound = actual then some bindings else none
      | none => some (bindings.insert name actual)
    else some bindings
  | .array formal, actual =>
    if mentions vars formal then
      match actual with
      | .array component => exact vars bindings formal component
      | _ =>
        if formal.qualifiedName ++ "[]" = actual.qualifiedName && actual.isRaw then some bindings
        else none
    else if Ty.array formal = actual then some bindings else none
  | .declared name args, actual =>
    if mentionsAny vars args then
      if name = actual.qualifiedName then exactAll vars bindings args actual.args else none
    else if Ty.declared name args = actual then some bindings else none
  | formal, actual => if formal = actual then some bindings else none

def exactAll (vars : List String) (bindings : Ty.Bindings) :
    List Ty → List Ty → Option Ty.Bindings
  | [], [] => some bindings
  | formal :: formals, actual :: actuals => do
    let bindings ← exact vars bindings formal actual
    exactAll vars bindings formals actuals
  | _, _ => none

end

/-- Matches a parameter type against the type of the value that is passed. -/
def accepts (table : ClassTable) (vars : List String) (bindings : Ty.Bindings)
    (formal actual : Ty) : Option Ty.Bindings :=
  let formal := formal.substitute bindings
  if isVar vars formal then
    if actual.isPrimitive || actual.isVoid then none
    else some (bindings.insert formal.qualifiedName actual)
  else if !mentions vars formal then
    if table.isAssignable actual formal then some bindings else none
  else match formal, actual with
    | .array component, .array actualComponent => exact vars bindings component actualComponent
    | _, _ => do
      let view ← table.asSupertype? actual formal.qualifiedName
      if view.isRaw then some bindings else exactAll vars bindings formal.args view.args

/-- Matches a result type against the type that is asked for. -/
def produces (table : ClassTable) (vars : List String) (bindings : Ty.Bindings)
    (produced target : Ty) : Option Ty.Bindings :=
  let produced := produced.substitute bindings
  if isVar vars produced then
    if target.isPrimitive then none else some (bindings.insert produced.qualifiedName target)
  else if !mentions vars produced then
    if table.isAssignable produced target then some bindings else none
  else match produced, target with
    | .array component, .array targetComponent => exact vars bindings component targetComponent
    | _, _ => do
      let view ← table.asSupertype? produced target.qualifiedName
      if target.isRaw then some bindings else exactAll vars bindings view.args target.args

/-! ## Binding parameters -/

/-- The first context parameter that fits, with the bindings after it. -/
def findContext (table : ClassTable) (vars : List String) (bindings : Ty.Bindings) (formal : Ty) :
    List Parameter → Option (String × Ty.Bindings)
  | [] => none
  | available :: rest =>
    match accepts table vars bindings formal available.ty with
    | some bindings => some (available.name, bindings)
    | none => findContext table vars bindings formal rest

def bindParameter (request : Request) (vars : List String) (bindings : Ty.Bindings)
    (parameter : Parameter) : Option (BoundValue × Ty.Bindings) :=
  match parameter.role with
  | .source => do
    let source ← request.source
    let bindings ← accepts request.table vars bindings parameter.ty source
    some (.sourceValue, bindings)
  | .mappingTarget => do
    let bindings ← accepts request.table vars bindings parameter.ty request.target
    some (.mappingTarget, bindings)
  | .targetType =>
    match parameter.ty.args with
    | [] => some (.targetType request.target, bindings)
    | arg :: _ => do
      let bindings ← exact vars bindings arg request.target
      some (.targetType request.target, bindings)
  | .context => do
    let (argument, bindings) ←
      findContext request.table vars bindings parameter.ty request.context
    some (.context argument, bindings)

def bindParameters (request : Request) (vars : List String) :
    Ty.Bindings → List Parameter → Option (List Binding × Ty.Bindings)
  | bindings, [] => some ([], bindings)
  | bindings, parameter :: rest => do
    let (value, bindings) ← bindParameter request vars bindings parameter
    let (bound, bindings) ← bindParameters request vars bindings rest
    some (⟨parameter.name, parameter.ty, value⟩ :: bound, bindings)

/-- Matches the result of a method, as its family demands. -/
def bindResult (request : Request) (candidate : Candidate) (bindings : Ty.Bindings) :
    Option Ty.Bindings :=
  let sources := candidate.sources.length
  let fits := produces request.table candidate.typeParameters bindings candidate.returnType
    request.target
  if candidate.flags.isFactory then
    if sources ≤ 1 && !candidate.returnType.isVoid then fits else none
  else if candidate.flags.isCallback then if sources ≤ 1 then some bindings else none
  else if candidate.flags.isPresenceCheck then
    if sources = 1 && candidate.returnType.isBoolean then some bindings else none
  else if sources = 1 then
    if candidate.returnType.isVoid then if candidate.isUpdate then some bindings else none
    else fits
  else none

/-- Binds a method to a request: every parameter, then the result. -/
def bind? (request : Request) (candidate : Candidate) : Option (List Binding × Ty.Bindings) := do
  let (bound, bindings) ←
    bindParameters request candidate.typeParameters [] candidate.parameters
  let bindings ← bindResult request candidate bindings
  some (bound, bindings)

end Matching

end BeanMapper
