import BeanMapper.Distinct
import BeanMapper.Text.Cut
import BeanMapper.Type.Primitive

/-!
Types as written: a type is its qualified name and its arguments, nothing else, so two types are
equal exactly when they are written alike. What a class declaration says of a type is asked of the
class table.
-/

namespace BeanMapper

/-- A type: `void`, a primitive, a class with arguments, an array or a type variable. -/
inductive Ty where
  | void
  | primitive (p : Primitive)
  | declared (name : String) (args : List Ty)
  | array (component : Ty)
  | typeVar (name : String)
  deriving Repr, Inhabited

namespace Ty

/-! ## Equality -/

mutual

/-- Whether two types are written alike. -/
def same : Ty → Ty → Bool
  | void, void => true
  | primitive p, primitive q => p = q
  | declared m as, declared n bs => m = n && sameAll as bs
  | array a, array b => same a b
  | typeVar m, typeVar n => m = n
  | _, _ => false

def sameAll : List Ty → List Ty → Bool
  | [], [] => true
  | a :: as, b :: bs => same a b && sameAll as bs
  | _, _ => false

end

mutual

theorem same_iff : ∀ {a b : Ty}, same a b = true ↔ a = b
  | void, b => by cases b <;> simp [same]
  | primitive _, b => by cases b <;> simp [same]
  | declared _ as, b => by cases b <;> simp [same, @sameAll_iff as]
  | array a, b => by cases b <;> simp [same, @same_iff a]
  | typeVar _, b => by cases b <;> simp [same]

theorem sameAll_iff : ∀ {as bs : List Ty}, sameAll as bs = true ↔ as = bs
  | [], bs => by cases bs <;> simp [sameAll]
  | a :: as, bs => by cases bs <;> simp [sameAll, @same_iff a, @sameAll_iff as]

end

instance : DecidableEq Ty := fun _ _ => decidable_of_iff _ same_iff

/-! ## Names and parts -/

/-- A class without arguments. -/
def named (name : String) : Ty := declared name []

/-- The name without arguments; an array has its component's name followed by brackets. -/
def qualifiedName : Ty → String
  | void => "void"
  | primitive p => p.name
  | declared name _ => name
  | array component => component.qualifiedName ++ "[]"
  | typeVar name => name

/-- The last dot-separated part of a qualified name. -/
def lastPart (name : String) : String :=
  match Text.splitLast? '.' name.toList with
  | some (_, simple) => String.ofList simple
  | none => name

def simpleName : Ty → String
  | declared name _ => lastPart name
  | array component => component.simpleName ++ "[]"
  | ty => ty.qualifiedName

def package? : Ty → Option String
  | declared name _ => (Text.splitLast? '.' name.toList).map fun parts => String.ofList parts.1
  | _ => none

def args : Ty → List Ty
  | declared _ args => args
  | _ => []

def primitive? : Ty → Option Primitive
  | primitive p => some p
  | _ => none

def component? : Ty → Option Ty
  | array component => some component
  | _ => none

/-- The primitive type that a class boxes. -/
def unboxed? : Ty → Option Primitive
  | declared name _ => Primitive.ofBoxedName? name
  | _ => none

/-- The class that boxes a primitive type. -/
def boxed (p : Primitive) : Ty := named p.boxedName

/-! ## Kinds -/

def isVoid : Ty → Bool
  | void => true
  | _ => false

def isPrimitive : Ty → Bool
  | primitive _ => true
  | _ => false

/-- Whether the type is a class, known or not. -/
def isDeclared : Ty → Bool
  | declared _ _ => true
  | _ => false

def isArray : Ty → Bool
  | array _ => true
  | _ => false

def isTypeVar : Ty → Bool
  | typeVar _ => true
  | _ => false

/-- Whether the type has no arguments. -/
def isRaw (ty : Ty) : Bool := ty.args.isEmpty

/-- Whether a value of the type may be null. -/
def isNullable (ty : Ty) : Bool := !ty.isPrimitive && !ty.isVoid

/-- Whether the type is the class of this name, with any arguments. -/
def isClass (name : String) : Ty → Bool
  | declared n _ => n = name
  | _ => false

/-- Whether the type is `boolean` or its box. -/
def isBoolean (ty : Ty) : Bool :=
  ty.primitive? = some .boolean || ty.unboxed? = some .boolean

/-! ## Erasure and mentions -/

/-- The type without arguments. -/
def erasure : Ty → Ty
  | declared name _ => declared name []
  | array component => array component.erasure
  | ty => ty

/-- Whether two types differ in their arguments at most. -/
def sameErasure (a b : Ty) : Bool := a.erasure = b.erasure

/-- Whether a mention of the type in a generated class needs an import. -/
def requiresImport (ty : Ty) : Bool :=
  match ty.package? with
  | some package => package != "java.lang"
  | none => false

mutual

/-- The erased classes that a type is written with, from the outside in. -/
def mentioned : Ty → List Ty
  | declared name args => declared name [] :: mentionedAll args
  | array component => component.mentioned
  | _ => []

def mentionedAll : List Ty → List Ty
  | [] => []
  | ty :: rest => ty.mentioned ++ mentionedAll rest

end

def imports (ty : Ty) : List Ty := distinct ty.mentioned

/-! ## Written form -/

mutual

/-- The type as it is written: arguments in angle brackets, separated by a comma and a blank. -/
def text : Ty → String
  | void => "void"
  | primitive p => p.name
  | declared name [] => name
  | declared name (first :: rest) => name ++ "<" ++ first.text ++ textAfter rest ++ ">"
  | array component => component.text ++ "[]"
  | typeVar name => name

/-- The arguments that follow the first one, each after its separator. -/
def textAfter : List Ty → String
  | [] => ""
  | ty :: rest => ", " ++ ty.text ++ textAfter rest

end

/-! ## Substitution -/

/-- Values of type variables; of two entries for one variable the later counts. -/
abbrev Bindings := List (String × Ty)

def Bindings.value? (bindings : Bindings) (name : String) : Option Ty :=
  bindings.reverse.lookup name

mutual

/-- The type with its variables replaced by their values; a variable without one stays. -/
def substitute (bindings : Bindings) : Ty → Ty
  | typeVar name => (bindings.value? name).getD (typeVar name)
  | declared name args => declared name (substituteAll bindings args)
  | array component => array (component.substitute bindings)
  | ty => ty

def substituteAll (bindings : Bindings) : List Ty → List Ty
  | [] => []
  | ty :: rest => ty.substitute bindings :: substituteAll bindings rest

end

theorem substituteAll_eq_map (bindings : Bindings) (tys : List Ty) :
    substituteAll bindings tys = tys.map (substitute bindings) := by
  induction tys with
  | nil => rfl
  | cons ty rest ih => simp [substituteAll, ih]

end Ty

end BeanMapper
