import BeanMapper.Type.Hierarchy

/-!
A catalog: a class table together with the types that have been looked up in it. A type is built
once, with the traits and the stand-in that the table gives it at that moment, and every later
look-up of the same type answers with it; a new declaration forgets all of them. Types handed out
earlier keep what they knew.
-/

namespace BeanMapper

/-- A type together with what was known of it, and of the types in it, when it was looked up. -/
inductive KnownType where
  | void
  | primitive (p : Primitive)
  | declared (name : String) (args : List KnownType) (traits : ClassTable.Traits)
      (implementation : Option KnownType)
  | array (component : KnownType)
  | typeVar (name : String)

namespace KnownType

mutual

def ty : KnownType → Ty
  | void => .void
  | primitive p => .primitive p
  | declared name args _ _ => .declared name (tys args)
  | array component => .array component.ty
  | typeVar name => .typeVar name

def tys : List KnownType → List Ty
  | [] => []
  | known :: rest => known.ty :: tys rest

end

/-- What is known of the type; nothing is known of any but a class. -/
def traits : KnownType → ClassTable.Traits
  | declared _ _ traits _ => traits
  | _ => ⟨false, false, false, false, false, false, false, false⟩

/-- The type that stands in for it where an instance is needed. -/
def implementation? : KnownType → Option KnownType
  | declared _ _ _ implementation => implementation
  | _ => none

end KnownType

/-- A class table and the types looked up since its last declaration. -/
structure Catalog where
  table : ClassTable := {}
  known : List (Ty × KnownType) := []

namespace Catalog

/-- Adds a declaration, which may change what holds of any type. -/
def declare (catalog : Catalog) (decl : ClassDecl) : Catalog := ⟨catalog.table.declare decl, []⟩

/-- A computation that looks types up. -/
abbrev Lookup := StateM Catalog

/-- The type of a class with arguments: the one known already, or a new one with a stand-in. -/
def build (implementation : Option KnownType) (name : String) (args : List KnownType) :
    Lookup KnownType := do
  let catalog ← get
  let key := Ty.declared name (KnownType.tys args)
  match catalog.known.lookup key with
  | some known => return known
  | none =>
    let known := KnownType.declared name args (catalog.table.traits key) implementation
    set { catalog with known := (key, known) :: catalog.known }
    return known

/-- Looks up the type of a class with arguments. A class that stands in for another needs no
stand-in itself. -/
def lookUp (name : String) (args : List KnownType) : Lookup KnownType := do
  let catalog ← get
  match catalog.known.lookup (Ty.declared name (KnownType.tys args)) with
  | some known => return known
  | none =>
    match Platform.implementation? name with
    | none => build none name args
    | some stand => do
      let implementation ← build none stand args
      build (some implementation) name args

mutual

/-- Looks up a type and the types in it, the arguments before the class. -/
def lookUpType : Ty → Lookup KnownType
  | .void => return .void
  | .primitive p => return .primitive p
  | .declared name args => do
    let args ← lookUpTypes args
    lookUp name args
  | .array component => return .array (← lookUpType component)
  | .typeVar name => return .typeVar name

def lookUpTypes : List Ty → Lookup (List KnownType)
  | [] => return []
  | ty :: rest => do
    let known ← lookUpType ty
    return known :: (← lookUpTypes rest)

end

mutual

/-- Replaces type variables by known types and looks up each class whose arguments are rebuilt. -/
def substitute (bindings : List (String × KnownType)) : KnownType → Lookup KnownType
  | .typeVar name => return (bindings.reverse.lookup name).getD (.typeVar name)
  | .declared name [] traits implementation => return .declared name [] traits implementation
  | .declared name (arg :: args) traits implementation =>
    if bindings.isEmpty then return .declared name (arg :: args) traits implementation
    else do
      let arg ← substitute bindings arg
      let args ← substituteAll bindings args
      lookUp name (arg :: args)
  | .array component => return .array (← substitute bindings component)
  | .void => return .void
  | .primitive p => return .primitive p

def substituteAll (bindings : List (String × KnownType)) :
    List KnownType → Lookup (List KnownType)
  | [] => return []
  | known :: rest => do
    let known ← substitute bindings known
    return known :: (← substituteAll bindings rest)

end

/-- Looks up the type that a text denotes. -/
def parse (text : String) : Lookup (Except TypeSyntaxError KnownType) := do
  let catalog ← get
  match catalog.table.parse text with
  | .error error => return .error error
  | .ok ty => return .ok (← lookUpType ty)

/-- Whether a type can be created without arguments, by the declaration in force and what was known
of the type when it was looked up. -/
def isInstantiable (catalog : Catalog) (known : KnownType) : Bool :=
  (catalog.table.declOf? known.ty).any fun decl =>
    decl.hasDefaultConstructor && !known.traits.isAbstract

end Catalog

end BeanMapper
