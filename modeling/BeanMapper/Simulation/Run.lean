import BeanMapper.Simulation.Heap

/-!
Steps of generated code: each may change the heap, and may fail. A step that fails keeps what it
has changed before.
-/

namespace BeanMapper.Simulation

/-- Why a step fails. -/
inductive Failure where
  | nullDereference
  | notAContainer (value : Value)
  | conversion (value : Value) (target : String)
  | unsupportedMethod (name : String)
  | noDefault (target : String)
  deriving DecidableEq, Repr

/-- The wording of a failure that is not about a particular value. -/
def Failure.message? : Failure → Option String
  | nullDereference => some "null dereference"
  | unsupportedMethod name => some s!"method `{name}` cannot be simulated"
  | noDefault target => some s!"no default value for {target}"
  | notAContainer _ => none
  | conversion _ _ => none

/-- A computation on the heap that may fail. -/
abbrev Run := ExceptT Failure (StateM Heap)

namespace Run

/-- What a view shows of the heap. -/
def view (f : Heap → α) : Run α := return f (← get)

def newList (items : List Value) : Run Value := modifyGet fun heap => heap.newList items

def newMap (entries : Entries) : Run Value := modifyGet fun heap => heap.newMap entries

def clear : Value → Run Unit
  | .list address => modify fun heap => heap.setItems address []
  | .map address => modify fun heap => heap.setEntries address []
  | .null => throw .nullDereference
  | value => throw (.notAContainer value)

/-- Adds the contents of the second container to the first of the same kind. -/
def extend : Value → Value → Run Unit
  | .list a, .list b => modify fun heap => heap.setItems a (heap.items a ++ heap.items b)
  | .map a, .map b =>
    modify fun heap => heap.setEntries a ((heap.entries a).putAll (heap.entries b))
  | .null, _ => throw .nullDereference
  | _, .null => throw .nullDereference
  | _, value => throw (.notAContainer value)

/-- A container of its own with the same contents; any other value is its own copy. -/
def copy : Value → Run Value
  | .list address => do newList (← view fun heap => heap.items address)
  | .map address => do newMap (← view fun heap => heap.entries address)
  | value => return value

end Run

end BeanMapper.Simulation
