import BeanMapper.Assignment.Basic

/-!
# The steps of an assignment

On the way from its source values to what is written, an assignment converts values and calls
methods. `Assignment.steps` lists these steps wherever they are in the tree: beneath wrappers, in
arguments, in the default of a setter and in presence checks. With each step it says which
exceptions the wrappers around it leave out, and whether it belongs to a presence check.
-/

namespace BeanMapper

namespace Assignment

/-- What a step does with a value. -/
inductive Action where
  | convert (conversion : Conversion)
  | call (reference : Reference)

/-- A conversion or a call somewhere in an assignment. -/
structure Step where
  action : Action
  /-- The exceptions that the wrappers around the step leave out. -/
  excluded : List Ty := []
  /-- Whether the step belongs to a presence check. -/
  isCheck : Bool := false

namespace Step

/-- The step beneath one more wrapper. -/
def under (excluded : List Ty) (step : Step) : Step :=
  { step with excluded := excluded ++ step.excluded }

def asCheck (step : Step) : Step := { step with isCheck := true }

def reference? (step : Step) : Option Reference :=
  match step.action with
  | .convert _ => none
  | .call reference => some reference

def thrownTypes (step : Step) : List Ty :=
  match step.action with
  | .convert conversion => conversion.thrownTypes
  | .call reference => reference.call.thrownTypes

/-- The step declares an exception that no wrapper around it leaves out. -/
def Throws (step : Step) (ty : Ty) : Prop := ty ∈ step.thrownTypes ∧ ty ∉ step.excluded

instance (step : Step) (ty : Ty) : Decidable (step.Throws ty) :=
  inferInstanceAs (Decidable (ty ∈ step.thrownTypes ∧ ty ∉ step.excluded))

variable {step : Step} {excluded : List Ty} {ty : Ty}

/-- Beneath one more wrapper, a step throws what that wrapper does not leave out. -/
theorem throws_under : (step.under excluded).Throws ty ↔ step.Throws ty ∧ ty ∉ excluded := by
  have happend : ty ∉ excluded ++ step.excluded ↔ ty ∉ excluded ∧ ty ∉ step.excluded := by
    rw [List.mem_append, not_or]
  constructor
  · rintro ⟨hmem, hnot⟩
    obtain ⟨houter, hinner⟩ := happend.1 hnot
    exact ⟨⟨hmem, hinner⟩, houter⟩
  · rintro ⟨⟨hmem, hinner⟩, houter⟩
    exact ⟨hmem, happend.2 ⟨houter, hinner⟩⟩

end Step

end Assignment

open Assignment (Step)

/-! ## Steps of a tree -/

mutual

def Assignment.steps : Assignment → List Step
  | .direct _ presence => presence.steps
  | .convert conversion argument => { action := .convert conversion } :: argument.steps
  | .call reference => reference.steps
  | .nullCheck guard inner => inner.steps.map (Step.under guard.excluded)
  | .merge guard _ _ inner => inner.steps.map (Step.under guard.excluded)
  | .setter setting inner none => inner.steps.map (Step.under setting.excluded)
  | .setter setting inner (some fallback) =>
    (inner.steps ++ fallback.steps).map (Step.under setting.excluded)

/-- A call as a step, and the steps of its argument. -/
def Reference.steps : Reference → List Step
  | .mk call none => [{ action := .call (.mk call none) }]
  | .mk call (some argument) =>
    { action := .call (.mk call (some argument)) } :: argument.steps

def Presence.steps : Presence → List Step
  | .unchecked => []
  | .accessor _ => []
  | .method reference => reference.steps.map Step.asCheck

end

def Assignment.references (a : Assignment) : List Reference := a.steps.filterMap Step.reference?

/-- A call and all that its argument calls. -/
def Reference.references (reference : Reference) : List Reference :=
  reference.steps.filterMap Step.reference?

def Presence.references (presence : Presence) : List Reference :=
  presence.steps.filterMap Step.reference?

/-! ## Calls of a tree -/

section References

variable (excluded : List Ty) (steps : List Step)

theorem Assignment.filterMap_under :
    (steps.map (Step.under excluded)).filterMap Step.reference? =
      steps.filterMap Step.reference? := by
  rw [List.filterMap_map]
  rfl

theorem Assignment.filterMap_asCheck :
    (steps.map Step.asCheck).filterMap Step.reference? = steps.filterMap Step.reference? := by
  rw [List.filterMap_map]
  rfl

end References

namespace Assignment

@[simp]
theorem references_direct (value : SourceValue) (presence : Presence) :
    (direct value presence).references = presence.references := by
  rw [references, steps, Presence.references]

@[simp]
theorem references_convert (conversion : Conversion) (argument : Assignment) :
    (convert conversion argument).references = argument.references := by
  rw [references, steps]
  rfl

@[simp]
theorem references_call (reference : Reference) :
    (call reference).references = reference.references := by
  rw [references, steps, Reference.references]

@[simp]
theorem references_nullCheck (guard : Guard) (inner : Assignment) :
    (nullCheck guard inner).references = inner.references := by
  rw [references, steps, filterMap_under, references]

@[simp]
theorem references_merge (guard : Guard) (check : NullValueCheck) (property : NullValueProperty)
    (inner : Assignment) : (merge guard check property inner).references = inner.references := by
  rw [references, steps, filterMap_under, references]

@[simp]
theorem references_setter (setting : Setting) (inner : Assignment) (fallback : Option Assignment) :
    (setter setting inner fallback).references =
      inner.references ++ fallback.toList.flatMap references := by
  cases fallback with
  | none =>
    rw [references, steps, filterMap_under]
    exact (List.append_nil _).symm
  | some other =>
    rw [references, steps, filterMap_under, List.filterMap_append]
    simp [references]

end Assignment

@[simp]
theorem Reference.references_mk (call : Call) (argument : Option Assignment) :
    (mk call argument).references =
      mk call argument :: argument.toList.flatMap Assignment.references := by
  cases argument with
  | none =>
    rw [references, steps]
    rfl
  | some other =>
    rw [references, steps, Option.toList_some, List.flatMap_singleton, Assignment.references]
    rfl

namespace Presence

@[simp]
theorem references_unchecked : unchecked.references = [] := by
  rw [references, steps, List.filterMap_nil]

@[simp]
theorem references_accessor (expression : String) : (accessor expression).references = [] := by
  rw [references, steps, List.filterMap_nil]

@[simp]
theorem references_method (reference : Reference) :
    (method reference).references = reference.references := by
  rw [references, steps, Assignment.filterMap_asCheck, Reference.references]

end Presence

end BeanMapper
