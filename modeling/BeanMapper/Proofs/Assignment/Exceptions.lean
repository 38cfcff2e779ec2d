import BeanMapper.Assignment.Requirement
import BeanMapper.Proofs.Assignment.Steps

/-!
# Declared exceptions of an assignment

An assignment throws what its steps declare and no wrapper around them leaves out. The list of its
exceptions goes through the tree for them, but not into presence checks: what a presence check
throws is lost, unless a step outside of presence checks throws it too (`Assignment.Loses`).
`mem_thrown_iff` says that the list holds the exceptions of all other steps and nothing else.
-/

namespace BeanMapper

open Assignment (Step)

theorem mem_undeclared {declared thrown : List Ty} {ty : Ty} :
    ty ∈ undeclared declared thrown ↔ ty ∈ thrown ∧ ty ∉ declared := by
  rw [undeclared, List.mem_filter, decide_eq_true_iff]

/-! ## Exceptions of a list of steps -/

/-- Some step of a list that belongs to no presence check throws an exception. -/
def Assignment.Raises (steps : List Step) (ty : Ty) : Prop :=
  ∃ step ∈ steps, step.Throws ty ∧ step.isCheck = false

namespace Assignment

variable {steps others : List Step} {step : Step} {ty : Ty}

theorem not_raises_nil : ¬Raises [] ty := by
  rintro ⟨step, hmem, -⟩
  cases hmem

theorem raises_cons :
    Raises (step :: steps) ty ↔ (step.Throws ty ∧ step.isCheck = false) ∨ Raises steps ty := by
  simp only [Raises, List.mem_cons, or_and_right, exists_or, exists_eq_left]

theorem raises_append : Raises (steps ++ others) ty ↔ Raises steps ty ∨ Raises others ty := by
  simp only [Raises, List.mem_append, or_and_right, exists_or]

/-- A wrapper lets through what it does not leave out. -/
theorem raises_under {excluded : List Ty} :
    Raises (steps.map (Step.under excluded)) ty ↔ Raises steps ty ∧ ty ∉ excluded := by
  constructor
  · rintro ⟨under, hmem, hthrows, hcheck⟩
    obtain ⟨step, hstep, rfl⟩ := List.mem_map.1 hmem
    obtain ⟨hinner, hnot⟩ := Step.throws_under.1 hthrows
    exact ⟨⟨step, hstep, hinner, hcheck⟩, hnot⟩
  · rintro ⟨⟨step, hstep, hthrows, hcheck⟩, hnot⟩
    exact ⟨step.under excluded, List.mem_map_of_mem hstep,
      Step.throws_under.2 ⟨hthrows, hnot⟩, hcheck⟩

/-- A step that no wrapper is around throws what it declares. -/
theorem throws_bare {action : Action} :
    Step.Throws { action } ty ↔ ty ∈ Step.thrownTypes { action } :=
  and_iff_left (List.not_mem_nil)

end Assignment

/-- All steps of a presence check belong to it. -/
theorem Presence.isCheck_of_mem {presence : Presence} {step : Step} (h : step ∈ presence.steps) :
    step.isCheck = true := by
  cases presence with
  | unchecked => cases h
  | accessor expression => cases h
  | method reference =>
    rw [Presence.steps] at h
    obtain ⟨inner, -, rfl⟩ := List.mem_map.1 h
    rfl

theorem Presence.not_raises (presence : Presence) (ty : Ty) :
    ¬Assignment.Raises presence.steps ty := by
  rintro ⟨step, hmem, -, hcheck⟩
  rw [presence.isCheck_of_mem hmem] at hcheck
  cases hcheck

/-! ## Exceptions of a tree -/

open Assignment (Raises raises_cons raises_append raises_under throws_bare not_raises_nil)

mutual

/-- The exceptions that an assignment lists are those of its steps outside of presence checks. -/
theorem Assignment.mem_thrownList_iff {ty : Ty} :
    ∀ a : Assignment, ty ∈ a.thrownList ↔ Raises a.steps ty
  | .direct value presence => by
    rw [Assignment.thrownList, Assignment.steps]
    exact iff_of_false List.not_mem_nil (presence.not_raises ty)
  | .convert conversion argument => by
    rw [Assignment.thrownList, Assignment.steps, List.mem_append, raises_cons, throws_bare,
      argument.mem_thrownList_iff]
    exact or_congr_left (and_iff_left rfl).symm
  | .call reference => by
    rw [Assignment.thrownList, Assignment.steps]
    exact reference.mem_thrownList_iff
  | .nullCheck guard inner => by
    rw [Assignment.thrownList, Assignment.steps, mem_undeclared, raises_under,
      inner.mem_thrownList_iff]
  | .merge guard check property inner => by
    rw [Assignment.thrownList, Assignment.steps, mem_undeclared, raises_under,
      inner.mem_thrownList_iff]
  | .setter setting inner none => by
    rw [Assignment.thrownList, Assignment.steps, mem_undeclared, raises_under,
      inner.mem_thrownList_iff]
  | .setter setting inner (some fallback) => by
    rw [Assignment.thrownList, Assignment.steps, List.mem_append, mem_undeclared, mem_undeclared,
      raises_under, raises_append, inner.mem_thrownList_iff, fallback.mem_thrownList_iff,
      or_and_right]

theorem Reference.mem_thrownList_iff {ty : Ty} :
    ∀ reference : Reference, ty ∈ reference.thrownList ↔ Raises reference.steps ty
  | .mk call none => by
    rw [Reference.thrownList, Reference.steps, raises_cons, throws_bare,
      or_iff_left not_raises_nil]
    exact (and_iff_left rfl).symm
  | .mk call (some argument) => by
    rw [Reference.thrownList, Reference.steps, List.mem_append, raises_cons, throws_bare,
      argument.mem_thrownList_iff]
    exact or_congr_left (and_iff_left rfl).symm

end

namespace Assignment

/-- Some step throws an exception that no wrapper around it leaves out. -/
def Throws (a : Assignment) (ty : Ty) : Prop := ∃ step ∈ a.steps, step.Throws ty

/-- An exception is thrown, but by presence checks only. -/
def Loses (a : Assignment) (ty : Ty) : Prop :=
  a.Throws ty ∧ ∀ step ∈ a.steps, step.Throws ty → step.isCheck = true

instance (a : Assignment) (ty : Ty) : Decidable (a.Throws ty) :=
  inferInstanceAs (Decidable (∃ step ∈ a.steps, step.Throws ty))

theorem mem_thrown_iff {a : Assignment} {ty : Ty} : ty ∈ a.thrown ↔ Raises a.steps ty := by
  rw [thrown, mem_distinct, a.mem_thrownList_iff]

theorem throws_of_raises {a : Assignment} {ty : Ty} (h : Raises a.steps ty) : a.Throws ty := by
  obtain ⟨step, hmem, hthrows, -⟩ := h
  exact ⟨step, hmem, hthrows⟩

/-- What is thrown is lost exactly if no step outside of presence checks throws it. -/
theorem loses_iff {a : Assignment} {ty : Ty} :
    a.Loses ty ↔ a.Throws ty ∧ ¬Raises a.steps ty := by
  refine and_congr_right fun _ => ⟨?_, ?_⟩
  · rintro hall ⟨step, hmem, hthrows, hcheck⟩
    rw [hall step hmem hthrows] at hcheck
    cases hcheck
  · intro hnot step hmem hthrows
    cases hcheck : step.isCheck with
    | true => rfl
    | false => exact absurd ⟨step, hmem, hthrows, hcheck⟩ hnot

/-- **Only presence checks lose exceptions.** An assignment lists exactly those exceptions that a
step outside of presence checks throws; so the list is that of all exceptions thrown, except where
presence checks alone throw one. -/
theorem thrown_iff_not_lost (a : Assignment) (ty : Ty) :
    (ty ∈ a.thrown ↔ ∃ step ∈ a.steps, step.Throws ty ∧ step.isCheck = false) ∧
      ((ty ∈ a.thrown ↔ a.Throws ty) ↔ ¬a.Loses ty) := by
  refine ⟨mem_thrown_iff, ?_⟩
  rw [mem_thrown_iff, loses_iff, not_and, Classical.not_not]
  exact ⟨fun h => h.2, fun h => ⟨throws_of_raises, h⟩⟩

end Assignment

/-! ## A check that throws -/

namespace Parcels

/-- Reads the item of an order after a method has told whether it is there; the method may fail. -/
def item : Assignment :=
  .direct (.ofProperty "order" "order.item" "order.getItem()" (.named "shop.Item"))
    (.method (.apply
      { name := "isPacked"
        provider := .mapper
        bindings := [⟨"item", .named "shop.Item", .sourceValue⟩]
        typeBindings := []
        returnType := .primitive .boolean
        thrownTypes := [.named "java.io.IOException"]
        imports := [] }
      (.direct (.ofProperty "order" "order.item" "order.getItem()" (.named "shop.Item"))
        .unchecked)))

/-- The check throws, and the assignment does not say so. -/
theorem not_always_listed : ¬∀ (a : Assignment) (ty : Ty), ty ∈ a.thrown ↔ a.Throws ty := by
  intro h
  have hthrows : item.Throws (.named "java.io.IOException") := by decide
  have hlisted : Ty.named "java.io.IOException" ∉ item.thrown := by decide
  exact hlisted ((h item (.named "java.io.IOException")).2 hthrows)

end Parcels

end BeanMapper
