import BeanMapper.Generation.Method
import BeanMapper.Simulation.Evaluation

/-!
What generated code does to targets: how a property slot changes, and what a container method
returns and fills.
-/

namespace BeanMapper.Simulation.Simulator

/-! ## Properties -/

/-- Fills the container of a slot. Without a container a copy is written, and a missing source
clears the slot only where that is asked for. -/
def merge (simulator : Simulator) (guard : Guard) (check : NullValueCheck)
    (property : NullValueProperty) (inner : Assignment) (slot source : Value) : Run Value :=
  if slot.isNull then
    if source.isNull then return slot else simulator.produce source inner
  else if !source.isNull then do
    let value ← simulator.evaluate source inner
    Run.clear slot
    Run.extend slot value
    return slot
  else if Assignment.mergesNull check property then
    if property = .setToDefault then emptyContainer simulator.table guard.target
    else return .null
  else return slot

/-- Sets a slot. Where a checked source is missing, the fallback or a reset takes its place. -/
def set (simulator : Simulator) (setting : Setting) (inner : Assignment)
    (fallback : Option Assignment) (slot source : Value) : Run Value :=
  if !setting.checksSource || !source.isNull then simulator.produce source inner
  else match fallback with
    | some fallback => simulator.evaluate .null fallback
    | none =>
      if setting.resetsToNull then return .null
      else if setting.resetsToDefault then defaultValue simulator.table setting.target
      else return slot

/-- What a property slot holds after an assignment has been run on it. -/
def write (simulator : Simulator) (slot source : Value) : Assignment → Run Value
  | .merge guard check property inner => simulator.merge guard check property inner slot source
  | .nullCheck _ inner =>
    if source.isNull then return slot else simulator.produce source inner
  | .setter setting inner fallback => simulator.set setting inner fallback slot source
  | assignment => simulator.produce source assignment

/-! ## Container methods -/

/-- The instance that a method fills, if it updates one. -/
def updated (isUpdate : Bool) (existing : Option Value) : Run (Option Value) :=
  if isUpdate then
    match existing with
    | some value => return some value
    | none => throw .nullDereference
  else return none

/-- The result for a missing source. -/
def missing (strategy : NullValueMapping) (target : Option Value) (empty : Run Value) :
    Run Value :=
  match strategy, target with
  | .returnNull, _ => return .null
  | .returnDefault, some target => do
    Run.clear target
    return target
  | .returnDefault, none => empty

/-- The result with its new contents: the target filled with them, or else the contents
themselves. -/
def fill (target : Option Value) (contents : Value) : Run Value :=
  match target with
  | some target => do
    Run.clear target
    Run.extend target contents
    return target
  | none => return contents

/-- The key that a value stands for. -/
def keyOf : Value → Run String
  | .text text => return text
  | .integer number => return toString number
  | value => throw (.notAContainer value)

/-- The entries that others are mapped to, put into those that are there already. -/
def mapEntries (simulator : Simulator) (key value : Assignment) (mapped : Entries) :
    Entries → Run Entries
  | [] => return mapped
  | entry :: rest => do
    let name ← keyOf (← simulator.evaluate (.text entry.1) key)
    let item ← simulator.evaluate entry.2 value
    simulator.mapEntries key value (mapped.put name item) rest

def runIterable (simulator : Simulator) (method : GeneratedMethod) (element : Assignment)
    (source : Value) (existing : Option Value) : Run Value := do
  let target ← updated method.isUpdate existing
  match source with
  | .null => missing method.nullValueMapping target (Run.newList [])
  | .list address =>
    let items ← Run.view fun heap => heap.items address
    let mapped ← items.mapM fun item => simulator.evaluate item element
    fill target (← Run.newList mapped)
  | value => throw (.notAContainer value)

def runMap (simulator : Simulator) (method : GeneratedMethod) (key value : Assignment)
    (source : Value) (existing : Option Value) : Run Value := do
  let target ← updated method.isUpdate existing
  match source with
  | .null => missing method.nullValueMapping target (Run.newMap [])
  | .map address =>
    let entries ← Run.view fun heap => heap.entries address
    let mapped ← simulator.mapEntries key value [] entries
    fill target (← Run.newMap mapped)
  | value => throw (.notAContainer value)

end BeanMapper.Simulation.Simulator
