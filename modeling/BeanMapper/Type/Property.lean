import BeanMapper.Text.Case
import BeanMapper.Type.Hierarchy

/-!
Properties of a type: those of its class and of all its supertypes, in the order of the supertype
closure. The first declaration of a name hides all later ones.
-/

namespace BeanMapper

/-- A property seen from a type, with the type's arguments in place. -/
structure Property where
  name : String
  ty : Ty
  isReadable : Bool
  isWritable : Bool
  hasPresenceChecker : Bool
  deriving DecidableEq, Repr

namespace Property

def getterName (property : Property) : String :=
  (if property.ty = .primitive .boolean then "is" else "get") ++ Text.capitalize property.name

def setterName (property : Property) : String := "set" ++ Text.capitalize property.name

/-- The name of the method that tells whether the property is present. -/
def presenceCheckerName? (property : Property) : Option String :=
  if property.hasPresenceChecker then some ("has" ++ Text.capitalize property.name) else none

end Property

namespace ClassTable

/-- A declared property with its type read and the type parameters replaced. -/
def property (table : ClassTable) (bindings : Ty.Bindings) (decl : PropertyDecl) :
    Except TypeSyntaxError Property := do
  let ty ← table.parse decl.typeText
  .ok {
    name := decl.name
    ty := ty.substitute bindings
    isReadable := decl.hasGetter
    isWritable := decl.hasSetter
    hasPresenceChecker := decl.hasPresenceChecker }

/-- The declarations of a type's properties, each with the values of its class's parameters. -/
def propertyDecls (table : ClassTable) (ty : Ty) : List (Ty.Bindings × PropertyDecl) :=
  (table.closure ty).flatMap fun view =>
    match table.declOf? view with
    | some decl => decl.properties.map fun property => (bindingsOf decl view.args, property)
    | none => []

/-- The declarations that no earlier one hides. -/
def visibleDecls : List String → List (Ty.Bindings × PropertyDecl) →
    List (Ty.Bindings × PropertyDecl)
  | _, [] => []
  | hidden, (bindings, decl) :: rest =>
    if decl.name ∈ hidden then visibleDecls hidden rest
    else (bindings, decl) :: visibleDecls (decl.name :: hidden) rest

/-- The properties of a type; an error is that of the first type text that cannot be read. -/
def properties (table : ClassTable) (ty : Ty) : Except TypeSyntaxError (List Property) :=
  (visibleDecls [] (table.propertyDecls ty)).mapM fun entry => table.property entry.1 entry.2

def property? (table : ClassTable) (ty : Ty) (name : String) :
    Except TypeSyntaxError (Option Property) := do
  let found ← table.properties ty
  .ok (found.find? fun property => property.name = name)

end ClassTable

end BeanMapper
