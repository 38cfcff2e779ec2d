/-!
The eight primitive types: their names, the classes that box them, widening between them and the
literals that reset a variable of each.
-/

namespace BeanMapper

inductive Primitive where
  | boolean
  | byte
  | short
  | char
  | int
  | long
  | float
  | double
  deriving DecidableEq, Repr

namespace Primitive

/-- All primitive types, in the order in which conversions list them. -/
def all : List Primitive := [boolean, byte, short, char, int, long, float, double]

/-- The keyword that denotes the type. -/
def name : Primitive → String
  | boolean => "boolean"
  | byte => "byte"
  | short => "short"
  | char => "char"
  | int => "int"
  | long => "long"
  | float => "float"
  | double => "double"

def ofName? (name : String) : Option Primitive := all.find? fun p => p.name == name

/-- The class whose instances hold one value of the type. -/
def boxedName : Primitive → String
  | boolean => "java.lang.Boolean"
  | byte => "java.lang.Byte"
  | short => "java.lang.Short"
  | char => "java.lang.Character"
  | int => "java.lang.Integer"
  | long => "java.lang.Long"
  | float => "java.lang.Float"
  | double => "java.lang.Double"

def ofBoxedName? (name : String) : Option Primitive := all.find? fun p => p.boxedName == name

/-- Whether a value of the first type becomes one of the second by widening alone. -/
def widensTo : Primitive → Primitive → Bool
  | byte, p => p ∈ [short, int, long, float, double]
  | short, p => p ∈ [int, long, float, double]
  | char, p => p ∈ [int, long, float, double]
  | int, p => p ∈ [long, float, double]
  | long, p => p ∈ [float, double]
  | float, p => p = double
  | double, _ => false
  | boolean, _ => false

/-- The literal that a variable of the type is reset to. -/
def defaultLiteral : Primitive → String
  | boolean => "false"
  | char => "'\\u0000'"
  | long => "0L"
  | float => "0.0f"
  | double => "0.0d"
  | byte => "0"
  | short => "0"
  | int => "0"

theorem mem_all (p : Primitive) : p ∈ all := by cases p <;> decide

theorem ofName?_name (p : Primitive) : ofName? p.name = some p := by cases p <;> rfl

theorem ofBoxedName?_boxedName (p : Primitive) : ofBoxedName? p.boxedName = some p := by
  cases p <;> rfl

end Primitive

end BeanMapper
