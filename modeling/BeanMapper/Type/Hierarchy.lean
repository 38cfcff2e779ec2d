import BeanMapper.Type.Reader

/-!
The class hierarchy: supertypes in breadth-first order, the distance between a class and a
supertype, views of a type as one of its supertypes, and assignability. Searches expand each class
name once, so their fuel is the number of supertype entries in the table and a little more.
-/

namespace BeanMapper.ClassTable

/-! ## Distance between erased classes -/

/-- A supertype text cut before its arguments. -/
def erasedName (text : String) : String :=
  String.ofList (Text.trimBoth Text.isBlank (Text.beforeFirst '<' text.toList))

def supertypeNames (table : ClassTable) (name : String) : List String :=
  match table.find? name with
  | some decl => decl.supertypes.map erasedName
  | none => []

/-- More steps than a search from one class can take. -/
def searchFuel (table : ClassTable) : Nat :=
  (table.decls.flatMap ClassDecl.supertypes).length + 2

/-- Looks for a name in a queue of names with their distances, nearest first. -/
def searchName (table : ClassTable) (goal : String) :
    Nat → List String → List (String × Nat) → Option Nat
  | 0, _, _ => none
  | _ + 1, _, [] => none
  | fuel + 1, seen, (name, depth) :: queue =>
    if name = goal then some depth
    else if name ∈ seen then searchName table goal fuel seen queue
    else
      let next := (table.supertypeNames name).map fun supertype => (supertype, depth + 1)
      searchName table goal fuel (name :: seen) (queue ++ next)

/-- The least number of supertype edges that lead from one class name to another. -/
def edges? (table : ClassTable) (source goal : String) : Option Nat :=
  table.searchName goal table.searchFuel [] [(source, 0)]

/-- The distance of a class to the root of all classes when no declaration leads there. -/
def implicitDistance : Nat := 9223372036854775807

/-- The number of supertype edges between a type and the class of a name. -/
def distance? (table : ClassTable) (source : Ty) (goal : String) : Option Nat :=
  match table.edges? source.qualifiedName goal with
  | some depth => some depth
  | none => if goal = Platform.object ∧ source.isDeclared then some implicitDistance else none

/-! ## Traits -/

/-- The declaration behind a type. -/
def declOf? (table : ClassTable) : Ty → Option ClassDecl
  | .declared name _ => table.find? name
  | _ => none

/-- Whether the declarations lead from a type to the class of a name. -/
def reaches (table : ClassTable) (ty : Ty) (goal : String) : Bool :=
  ty.isDeclared && (table.edges? ty.qualifiedName goal).isSome

/-- What the table says of a type. -/
structure Traits where
  isKnown : Bool
  isInterface : Bool
  isAbstract : Bool
  isEnum : Bool
  isImmutable : Bool
  isIterable : Bool
  isCollection : Bool
  isMap : Bool
  deriving DecidableEq, Repr

def isInterface (table : ClassTable) (ty : Ty) : Bool :=
  (table.declOf? ty).any fun decl => decl.kind = .interface

/-- Whether a type is declared abstract, as every interface is. -/
def isAbstract (table : ClassTable) (ty : Ty) : Bool :=
  (table.declOf? ty).any fun decl => decl.isAbstract || decl.kind = .interface

def isEnum (table : ClassTable) (ty : Ty) : Bool :=
  (table.declOf? ty).any fun decl => decl.kind = .enumeration

def isImmutable (table : ClassTable) (ty : Ty) : Bool :=
  (table.declOf? ty).any fun decl => decl.isImmutable

def isIterable (table : ClassTable) (ty : Ty) : Bool := table.reaches ty Platform.iterable

def isCollection (table : ClassTable) (ty : Ty) : Bool := table.reaches ty Platform.collection

def isMap (table : ClassTable) (ty : Ty) : Bool := table.reaches ty Platform.map

def isContainer (table : ClassTable) (ty : Ty) : Bool := table.isCollection ty || table.isMap ty

def traits (table : ClassTable) (ty : Ty) : Traits where
  isKnown := (table.declOf? ty).isSome
  isInterface := table.isInterface ty
  isAbstract := table.isAbstract ty
  isEnum := table.isEnum ty
  isImmutable := table.isImmutable ty
  isIterable := table.isIterable ty
  isCollection := table.isCollection ty
  isMap := table.isMap ty

/-- Whether the type can be created without arguments. -/
def isInstantiable (table : ClassTable) (ty : Ty) : Bool :=
  (table.declOf? ty).any fun decl => decl.hasDefaultConstructor && !table.isAbstract ty

/-! ## Supertypes -/

/-- The values that a class's parameters have in a type of that class. -/
def bindingsOf (decl : ClassDecl) (args : List Ty) : Ty.Bindings := decl.typeParams.zip args

/-- The declared supertypes of a class with arguments. A generic class without arguments has erased
supertypes; a text that is no type contributes nothing. -/
def supertypes (table : ClassTable) (name : String) (args : List Ty) : List Ty :=
  match table.find? name with
  | none => []
  | some decl =>
    let view : Ty → Ty :=
      if args.isEmpty && !decl.typeParams.isEmpty then Ty.erasure
      else Ty.substitute (bindingsOf decl args)
    decl.supertypes.filterMap fun text => (table.parse text).toOption.map view

/-- Lists the types of a queue and their supertypes, each class once. -/
def closureFrom (table : ClassTable) : Nat → List String → List Ty → List Ty
  | 0, _, _ => []
  | _ + 1, _, [] => []
  | fuel + 1, seen, .declared name args :: queue =>
    if name ∈ seen then closureFrom table fuel seen queue
    else
      .declared name args ::
        closureFrom table fuel (name :: seen) (queue ++ table.supertypes name args)
  | fuel + 1, seen, _ :: queue => closureFrom table fuel seen queue

/-- A class type followed by its supertypes in breadth-first order; nothing for other types. -/
def closure (table : ClassTable) (ty : Ty) : List Ty :=
  table.closureFrom table.searchFuel [] [ty]

/-- A type seen as its supertype of the given name. -/
def asSupertype? (table : ClassTable) (ty : Ty) (name : String) : Option Ty :=
  if name = Platform.object ∧ (ty.isDeclared ∨ ty.isArray) then some .object
  else (table.closure ty).find? fun view => view.qualifiedName = name

/-! ## Assignability -/

/-- Whether the arguments of a view are those that are asked for; a type variable asks for
nothing. -/
def argsFit (actual expected : List Ty) : Bool :=
  actual.length = expected.length &&
    (actual.zip expected).all fun pair => pair.1 = pair.2 || pair.2.isTypeVar

/-- Whether a value of the first type can stand where the second is asked for, unconverted. -/
def isAssignable (table : ClassTable) : Ty → Ty → Bool
  | .array a, .array b =>
    if a = b then true
    else if a.isPrimitive || b.isPrimitive then false
    else isAssignable table a b
  | .declared name args, .declared goal expected =>
    if Ty.declared name args = .declared goal expected then true
    else if goal = Platform.object then true
    else match table.asSupertype? (.declared name args) goal with
      | none => false
      | some view => expected.isEmpty || view.isRaw || argsFit view.args expected
  | .array _, .declared goal _ => goal = Platform.object
  | .typeVar m, .typeVar n => m = n
  | .typeVar _, .declared goal _ => goal = Platform.object
  | .void, .void => true
  | .primitive p, .primitive q => p = q
  | _, _ => false

/-! ## Elements and entries -/

/-- The type of the elements of an array or of whatever can be iterated. -/
def elementType? (table : ClassTable) (ty : Ty) : Option Ty :=
  match ty with
  | .array component => some component
  | _ => (table.asSupertype? ty Platform.iterable).map fun view => view.args.headD .object

/-- The types of the keys and values of a map. -/
def entryTypes? (table : ClassTable) (ty : Ty) : Option (Ty × Ty) :=
  (table.asSupertype? ty Platform.map).map fun view =>
    (view.args.headD .object, (view.args[1]?).getD .object)

end BeanMapper.ClassTable
