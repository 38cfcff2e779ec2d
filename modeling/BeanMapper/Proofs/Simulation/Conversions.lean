import BeanMapper.Proofs.Assignment.Classification
import BeanMapper.Proofs.Simulation.NullFlow

/-!
# Conversions of null

`writeWith` runs an assignment with other conversions in the place of those there are, and is
`write` if they are the same (`writeWith_convert`). Two kinds of conversions that differ on null
alone tell whether null is ever converted: a run in which it is not cannot tell them apart. This
holds of an expression whose source is there (`evaluateWith_of_present`) and of one without
conversions (`evaluateWith_of_unconverted`).
-/

namespace BeanMapper

namespace Simulation

open Run

/-! ## Runs with other conversions -/

/-- What conversions make of values. -/
abbrev Conversions := Ty → Value → Run Value

namespace Simulator

mutual

/-- The value that an assignment produces if these are the conversions. -/
def evaluateWith (conversions : Conversions) (simulator : Simulator) (source : Value) :
    Assignment → Run Value
  | .direct value _ => return if value.isConstant then literal value.reference else source
  | .convert conversion argument => do
    conversions conversion.target (← evaluateWith conversions simulator source argument)
  | .call reference => evaluateCallWith conversions simulator source reference
  | .nullCheck _ inner => evaluateWith conversions simulator source inner
  | .merge _ _ _ inner => evaluateWith conversions simulator source inner
  | .setter _ inner _ => evaluateWith conversions simulator source inner

def evaluateCallWith (conversions : Conversions) (simulator : Simulator) (source : Value) :
    Reference → Run Value
  | .mk call none => simulator.invoke call.name (return source)
  | .mk call (some argument) =>
    simulator.invoke call.name (evaluateWith conversions simulator source argument)

end

def produceWith (conversions : Conversions) (simulator : Simulator) (source : Value)
    (assignment : Assignment) : Run Value := do
  let value ← simulator.evaluateWith conversions source assignment
  if assignment.innermost.isDirect then Run.copy value else return value

def mergeWith (conversions : Conversions) (simulator : Simulator) (guard : Guard)
    (check : NullValueCheck) (property : NullValueProperty) (inner : Assignment)
    (slot source : Value) : Run Value :=
  if slot.isNull then
    if source.isNull then return slot else simulator.produceWith conversions source inner
  else if !source.isNull then do
    let value ← simulator.evaluateWith conversions source inner
    Run.clear slot
    Run.extend slot value
    return slot
  else if Assignment.mergesNull check property then
    if property = .setToDefault then emptyContainer simulator.table guard.target
    else return .null
  else return slot

def setWith (conversions : Conversions) (simulator : Simulator) (setting : Setting)
    (inner : Assignment) (fallback : Option Assignment) (slot source : Value) : Run Value :=
  if !setting.checksSource || !source.isNull then simulator.produceWith conversions source inner
  else match fallback with
    | some fallback => simulator.evaluateWith conversions .null fallback
    | none =>
      if setting.resetsToNull then return .null
      else if setting.resetsToDefault then defaultValue simulator.table setting.target
      else return slot

def writeWith (conversions : Conversions) (simulator : Simulator) (slot source : Value) :
    Assignment → Run Value
  | .merge guard check property inner =>
    simulator.mergeWith conversions guard check property inner slot source
  | .nullCheck _ inner =>
    if source.isNull then return slot else simulator.produceWith conversions source inner
  | .setter setting inner fallback =>
    simulator.setWith conversions setting inner fallback slot source
  | assignment => simulator.produceWith conversions source assignment

variable {simulator : Simulator} {conversions : Conversions} {slot source : Value}
  {assignment : Assignment}

theorem evaluateWith_convert (simulator : Simulator) (source : Value) (a : Assignment) :
    simulator.evaluateWith convert source a = simulator.evaluate source a := by
  induction a using Assignment.byParts with
  | direct value presence => rfl
  | convert conversion argument ih => rw [evaluateWith, evaluate, ih]
  | refer c => rfl
  | apply c argument ih =>
    rw [evaluateWith, evaluateCallWith, evaluate, evaluateCall, ih]
  | nullCheck guard inner ih => rw [evaluateWith, evaluate, ih]
  | merge guard check property inner ih => rw [evaluateWith, evaluate, ih]
  | setter setting inner fallback ih => rw [evaluateWith, evaluate, ih]

/-! ## Where the conversions do not matter -/

/-- The conversions are those there are, but may make anything of null. -/
def AgreeOffNull (conversions : Conversions) : Prop :=
  ∀ ty v, v ≠ .null → conversions ty v = convert ty v

theorem evaluateWith_of_present (hc : AgreeOffNull conversions)
    (hsim : simulator.NeverReturnsNull) {a : Assignment}
    (hs : source ≠ .null ∨ a.isConstant = true) :
    simulator.evaluateWith conversions source a = simulator.evaluate source a := by
  induction a using Assignment.byParts with
  | direct value presence => rfl
  | convert conversion argument ih =>
    rw [evaluateWith, evaluate, ih hs]
    have hargument : source ≠ .null ∨ argument.isConstant = true := hs
    refine bind_congr_returns fun heap v between hv => ?_
    exact hc _ _ (evaluate_ne_null hsim hargument hv)
  | refer c => rfl
  | apply c argument ih => rw [evaluateWith, evaluateCallWith, evaluate, evaluateCall, ih hs]
  | nullCheck guard inner ih => rw [evaluateWith, evaluate, ih hs]
  | merge guard check property inner ih => rw [evaluateWith, evaluate, ih hs]
  | setter setting inner fallback ih => rw [evaluateWith, evaluate, ih hs]

theorem evaluateWith_of_unconverted {a : Assignment} (h : a.type.isConverted = false) :
    simulator.evaluateWith conversions source a = simulator.evaluate source a := by
  induction a using Assignment.byParts with
  | direct value presence => rfl
  | convert conversion argument ih =>
    rw [Assignment.type, AssignmentType.isConverted_convert] at h
    cases h
  | refer c => rfl
  | apply c argument ih =>
    rw [Assignment.type, AssignmentType.isConverted_map] at h
    rw [evaluateWith, evaluateCallWith, evaluate, evaluateCall, ih h]
  | nullCheck guard inner ih => rw [evaluateWith, evaluate, ih h]
  | merge guard check property inner ih => rw [evaluateWith, evaluate, ih h]
  | setter setting inner fallback ih => rw [evaluateWith, evaluate, ih h]

theorem produceWith_eq (h : simulator.evaluateWith conversions source assignment =
    simulator.evaluate source assignment) :
    simulator.produceWith conversions source assignment = simulator.produce source assignment := by
  rw [produceWith, produce, h]

/-! ## Wrappers -/

theorem mergeWith_eq {guard : Guard} {check : NullValueCheck} {property : NullValueProperty}
    (h : source ≠ .null → simulator.evaluateWith conversions source assignment =
      simulator.evaluate source assignment) :
    simulator.mergeWith conversions guard check property assignment slot source =
      simulator.merge guard check property assignment slot source := by
  by_cases hs : source = .null
  · subst hs; rfl
  · rw [mergeWith, merge, produceWith_eq (h hs), h hs]

theorem setWith_eq {setting : Setting} {fallback : Option Assignment}
    (h : source ≠ .null ∨ setting.checksSource = false →
      simulator.evaluateWith conversions source assignment = simulator.evaluate source assignment)
    (hf : ∀ other, fallback = some other →
      simulator.evaluateWith conversions .null other = simulator.evaluate .null other) :
    simulator.setWith conversions setting assignment fallback slot source =
      simulator.set setting assignment fallback slot source := by
  unfold setWith set
  split
  · rename_i hwritten
    refine produceWith_eq (h ?_)
    cases hs : setting.checksSource with
    | false => exact Or.inr rfl
    | true =>
      refine Or.inl fun hn => ?_
      subst hn
      simp [hs, Value.isNull] at hwritten
  · cases fallback with
    | none => rfl
    | some other => exact hf other rfl

/-- With the conversions there are it is the same run. -/
theorem writeWith_convert (simulator : Simulator) (slot source : Value) (a : Assignment) :
    simulator.writeWith convert slot source a = simulator.write slot source a := by
  cases a with
  | merge guard check property inner => exact mergeWith_eq fun _ => evaluateWith_convert _ _ _
  | nullCheck guard inner =>
    rw [writeWith, write, produceWith_eq (evaluateWith_convert simulator source inner)]
  | setter setting inner fallback =>
    exact setWith_eq (fun _ => evaluateWith_convert _ _ _) fun _ _ => evaluateWith_convert _ _ _
  | direct value presence => exact produceWith_eq (evaluateWith_convert _ _ _)
  | convert conversion argument => exact produceWith_eq (evaluateWith_convert _ _ _)
  | call reference => exact produceWith_eq (evaluateWith_convert _ _ _)

end Simulator

end Simulation

end BeanMapper
