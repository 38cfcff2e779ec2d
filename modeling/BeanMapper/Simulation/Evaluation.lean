import BeanMapper.Assignment.Basic
import BeanMapper.Simulation.Run
import BeanMapper.Text.Integer
import BeanMapper.Text.Quoted
import BeanMapper.Type.Hierarchy

/-!
The value that an assignment produces. Conversions pass null through and turn numbers into texts and
texts into numbers; what a method does is told from outside.
-/

namespace BeanMapper.Simulation

/-- What is known of the world around an assignment: the classes, and what the methods do that it
may call. -/
structure Simulator where
  table : ClassTable
  behavior? : String → Option (Value → Run Value) := fun _ => none

/-! ## Constants and conversions -/

/-- The value of a constant: a text in quotes, a number, or the text as it stands. -/
def literal (reference : String) : Value :=
  let text := Text.trim reference
  match Text.unquote? text with
  | some inside => .text inside
  | none =>
    match Text.int64? text with
    | some number => .integer number
    | none => .text text

/-- A value after a conversion to a type. -/
def convert (target : Ty) : Value → Run Value
  | .integer number => return if target.isString then .text (toString number) else .integer number
  | .text text =>
    if target.isPrimitive || target.unboxed?.isSome then
      match Text.int64? (Text.trim text) with
      | some number => return .integer number
      | none => throw (.conversion (.text text) target.text)
    else return .text text
  | value => return value

/-! ## Defaults -/

def emptyContainer (table : ClassTable) (ty : Ty) : Run Value :=
  if table.isMap ty then Run.newMap []
  else if table.isIterable ty then Run.newList []
  else throw (.noDefault ty.text)

/-- The default value of a type: the empty text, zero, or an empty container. -/
def defaultValue (table : ClassTable) (ty : Ty) : Run Value :=
  if ty.isString then return .text ""
  else match ty.primitive?.or ty.unboxed? with
    | some p => if p = .boolean then emptyContainer table ty else return .integer 0
    | none => emptyContainer table ty

/-! ## Assignments -/

namespace Simulator

/-- What a method makes of a value. -/
def invoke (simulator : Simulator) (name : String) (argument : Run Value) : Run Value :=
  match simulator.behavior? name with
  | none => throw (.unsupportedMethod name)
  | some behavior => argument >>= behavior

mutual

/-- The value that an assignment produces from a source value, however it is written. -/
def evaluate (simulator : Simulator) (source : Value) : Assignment → Run Value
  | .direct value _ => return if value.isConstant then literal value.reference else source
  | .convert conversion argument => do
    convert conversion.target (← evaluate simulator source argument)
  | .call reference => evaluateCall simulator source reference
  | .nullCheck _ inner => evaluate simulator source inner
  | .merge _ _ _ inner => evaluate simulator source inner
  | .setter _ inner _ => evaluate simulator source inner

/-- The value that a call returns. A call without an argument of its own takes the source value. -/
def evaluateCall (simulator : Simulator) (source : Value) : Reference → Run Value
  | .mk call none => simulator.invoke call.name (return source)
  | .mk call (some argument) =>
    simulator.invoke call.name (evaluate simulator source argument)

end

/-- The value as it is written: a container that is taken as it is becomes a copy. -/
def produce (simulator : Simulator) (source : Value) (assignment : Assignment) : Run Value := do
  let value ← simulator.evaluate source assignment
  if assignment.innermost.isDirect then Run.copy value else return value

end Simulator

end BeanMapper.Simulation
