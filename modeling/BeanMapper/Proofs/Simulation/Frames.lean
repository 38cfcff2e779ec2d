import BeanMapper.Proofs.Assignment.Parts
import BeanMapper.Proofs.Simulation.Runs
import BeanMapper.Simulation.Writing

/-!
# What a property assignment touches

A run touches only certain containers if every other one that is in the heap has the same contents
after it, whether it fails or not (`Run.TouchesOnly`). If no method mutates a container, evaluation
touches none (`Simulator.evaluate_touches_none`), and the one thing left in a property assignment
that does is to refill the container of its slot (`Simulator.write_cases`). Hence the frame of a
property assignment (`Simulator.write_frame`): it touches at most what its slot holds, in a merge,
and a source that is taken as it is gets copied and is not shared.
-/

namespace BeanMapper.Simulation

/-! ## Contents -/

inductive Contents where
  | items (items : List Value)
  | entries (entries : Entries)
  deriving DecidableEq, Repr

/-- No contents, of the same kind. -/
def Contents.emptied : Contents → Contents
  | items _ => items []
  | entries _ => entries []

namespace Heap

variable {heap : Heap} {value : Value} {contents : Contents}

def contents? (heap : Heap) : Value → Option Contents
  | .list address => heap.lists[address]?.map .items
  | .map address => heap.maps[address]?.map .entries
  | _ => none

theorem contents?_newList (items : List Value) (h : heap.contents? value = some contents) :
    (heap.newList items).2.contents? value = some contents := by
  cases value with
  | list address =>
    obtain ⟨found, hfound, rfl⟩ := Option.map_eq_some_iff.1 h
    obtain ⟨hlt, -⟩ := List.getElem?_eq_some_iff.1 hfound
    simp only [contents?, newList, List.getElem?_append_left hlt, hfound, Option.map_some]
  | map address => exact h
  | _ => exact h

theorem contents?_newMap (entries : Entries) (h : heap.contents? value = some contents) :
    (heap.newMap entries).2.contents? value = some contents := by
  cases value with
  | map address =>
    obtain ⟨found, hfound, rfl⟩ := Option.map_eq_some_iff.1 h
    obtain ⟨hlt, -⟩ := List.getElem?_eq_some_iff.1 hfound
    simp only [contents?, newMap, List.getElem?_append_left hlt, hfound, Option.map_some]
  | list address => exact h
  | _ => exact h

theorem contents?_setItems (heap : Heap) (address : Nat) (items : List Value) (v : Value)
    (hv : v ≠ .list address) : (heap.setItems address items).contents? v = heap.contents? v := by
  cases v with
  | list other =>
    have hne : address ≠ other := fun h => hv (congrArg Value.list h.symm)
    simp only [contents?, setItems, List.getElem?_set_ne hne]
  | _ => rfl

theorem contents?_setEntries (heap : Heap) (address : Nat) (entries : Entries) (v : Value)
    (hv : v ≠ .map address) :
    (heap.setEntries address entries).contents? v = heap.contents? v := by
  cases v with
  | map other =>
    have hne : address ≠ other := fun h => hv (congrArg Value.map h.symm)
    simp only [contents?, setEntries, List.getElem?_set_ne hne]
  | _ => rfl

end Heap

/-! ## Runs that touch certain containers only -/

namespace Run

variable {α β : Type} {touched : List Value} {heap heap' : Heap} {value : Value}

/-- Every container in the heap but those touched has the same contents after the run, whether it
fails or not. Containers may come to the heap. -/
def TouchesOnly (touched : List Value) (run : Run α) : Prop :=
  ∀ heap v contents, v ∉ touched → heap.contents? v = some contents →
    (run.run.run heap).2.contents? v = some contents

theorem TouchesOnly.of_none {run : Run α} (h : TouchesOnly [] run) : TouchesOnly touched run :=
  fun heap v contents _ => h heap v contents List.not_mem_nil

theorem TouchesOnly.pure (a : α) : TouchesOnly touched (pure a : Run α) := by
  intro heap v contents _ h
  exact h

theorem TouchesOnly.throw (e : Failure) : TouchesOnly touched (throw e : Run α) := by
  intro heap v contents _ h
  exact h

theorem TouchesOnly.view (f : Heap → α) : TouchesOnly touched (view f) := by
  intro heap v contents _ h
  exact h

theorem TouchesOnly.newList (items : List Value) : TouchesOnly touched (newList items) := by
  intro heap v contents _ h
  exact Heap.contents?_newList items h

theorem TouchesOnly.newMap (entries : Entries) : TouchesOnly touched (newMap entries) := by
  intro heap v contents _ h
  exact Heap.contents?_newMap entries h

theorem TouchesOnly.bind {run : Run α} {next : α → Run β} (h : TouchesOnly touched run)
    (hn : ∀ a, TouchesOnly touched (next a)) : TouchesOnly touched (run >>= next) := by
  intro heap v contents hv hheap
  have hbetween := h heap v contents hv hheap
  rw [run_bind]
  rcases hr : run.run.run heap with ⟨e | a, between⟩ <;> rw [hr] at hbetween
  · exact hbetween
  · exact hn a between v contents hv hbetween

theorem TouchesOnly.mapM {f : α → Run β} (h : ∀ a, TouchesOnly touched (f a)) (as : List α) :
    TouchesOnly touched (as.mapM f) := by
  induction as with
  | nil => exact TouchesOnly.pure []
  | cons a rest ih =>
    rw [List.mapM_cons]
    exact (h a).bind fun b => ih.bind fun bs => TouchesOnly.pure (b :: bs)

theorem TouchesOnly.returns {run : Run α} {a : α} {v : Value} {contents : Contents}
    (h : TouchesOnly touched run) (hr : Returns run heap a heap') (hv : v ∉ touched)
    (hheap : heap.contents? v = some contents) : heap'.contents? v = some contents := by
  have h := h heap v contents hv hheap
  rw [hr] at h
  exact h

theorem TouchesOnly.fails {run : Run α} {e : Failure} {v : Value} {contents : Contents}
    (h : TouchesOnly touched run) (hf : Fails run heap e heap') (hv : v ∉ touched)
    (hheap : heap.contents? v = some contents) : heap'.contents? v = some contents := by
  have h := h heap v contents hv hheap
  rw [hf] at h
  exact h

/-! ### Containers -/

theorem TouchesOnly.copy (value : Value) : TouchesOnly touched (copy value) := by
  cases value with
  | list address => exact (TouchesOnly.view _).bind TouchesOnly.newList
  | map address => exact (TouchesOnly.view _).bind TouchesOnly.newMap
  | _ => exact TouchesOnly.pure _

/-- A copy is none of the containers that are there already. -/
theorem returns_copy_new {original : Value} (h : Returns (copy original) heap value heap') :
    heap.contents? value = none := by
  cases original with
  | list address =>
    obtain ⟨items, between, hview, hnew⟩ := returns_bind.1 h
    obtain ⟨-, rfl⟩ := returns_view.1 hview
    rw [(returns_newList.1 hnew).1]
    simp [Heap.contents?]
  | map address =>
    obtain ⟨entries, between, hview, hnew⟩ := returns_bind.1 h
    obtain ⟨-, rfl⟩ := returns_view.1 hview
    rw [(returns_newMap.1 hnew).1]
    simp [Heap.contents?]
  | _ => rw [(returns_pure.1 h).1]; rfl

theorem TouchesOnly.clear (target : Value) : TouchesOnly [target] (clear target) := by
  intro heap v contents hv h
  have hv : v ≠ target := by simpa using hv
  cases target with
  | list address => exact (heap.contents?_setItems address [] v hv).trans h
  | map address => exact (heap.contents?_setEntries address [] v hv).trans h
  | _ => exact h

theorem TouchesOnly.extend (target source : Value) :
    TouchesOnly [target] (extend target source) := by
  intro heap v contents hv h
  have hv : v ≠ target := by simpa using hv
  cases target with
  | list a =>
    cases source with
    | list b => exact (heap.contents?_setItems a _ v hv).trans h
    | _ => exact h
  | map a =>
    cases source with
    | map b => exact (heap.contents?_setEntries a _ v hv).trans h
    | _ => exact h
  | _ => cases source <;> exact h

/-- Empties a container, fills it again and returns it. -/
def refill (target contents : Value) : Run Value := do
  clear target
  extend target contents
  return target

theorem TouchesOnly.refill (target contents : Value) :
    TouchesOnly [target] (refill target contents) :=
  (TouchesOnly.clear target).bind fun _ => (TouchesOnly.extend target contents).bind fun _ =>
    TouchesOnly.pure target

theorem returns_refill {target contents : Value}
    (h : Returns (refill target contents) heap value heap') : value = target := by
  obtain ⟨-, cleared, -, h⟩ := returns_bind.1 h
  obtain ⟨-, extended, -, h⟩ := returns_bind.1 h
  exact (returns_pure.1 h).1

end Run

open Run

/-! ## Values that are produced -/

section Produced

variable {touched : List Value}

theorem convert_touches_none (target : Ty) (v : Value) :
    TouchesOnly touched (convert target v) := by
  cases v with
  | text text =>
    simp only [convert]
    split
    · split
      · exact TouchesOnly.pure _
      · exact TouchesOnly.throw _
    · exact TouchesOnly.pure _
  | _ => exact TouchesOnly.pure _

theorem emptyContainer_touches_none (table : ClassTable) (ty : Ty) :
    TouchesOnly touched (emptyContainer table ty) := by
  unfold emptyContainer
  split
  · exact TouchesOnly.newMap []
  · split
    · exact TouchesOnly.newList []
    · exact TouchesOnly.throw _

theorem defaultValue_touches_none (table : ClassTable) (ty : Ty) :
    TouchesOnly touched (defaultValue table ty) := by
  unfold defaultValue
  split
  · exact TouchesOnly.pure _
  · split
    · split
      · exact emptyContainer_touches_none table ty
      · exact TouchesOnly.pure _
    · exact emptyContainer_touches_none table ty

end Produced

namespace Simulator

variable {simulator : Simulator} {slot source value : Value} {heap heap' : Heap}
  {touched : List Value}

/-- No method mutates a container. -/
def MutatesNothing (simulator : Simulator) : Prop :=
  ∀ name behavior argument, simulator.behavior? name = some behavior →
    TouchesOnly [] (behavior argument)

theorem invoke_touches_none (hsim : simulator.MutatesNothing) (name : String)
    {argument : Run Value} (h : TouchesOnly [] argument) :
    TouchesOnly [] (simulator.invoke name argument) := by
  unfold invoke
  split
  · exact TouchesOnly.throw _
  · rename_i behavior hb
    exact h.bind fun v => hsim name behavior v hb

/-- Evaluation touches no container if no method does. -/
theorem evaluate_touches_none (hsim : simulator.MutatesNothing) (source : Value)
    (a : Assignment) : TouchesOnly [] (simulator.evaluate source a) := by
  induction a using Assignment.byParts with
  | direct v presence => rw [evaluate]; exact TouchesOnly.pure _
  | convert c argument ih => rw [evaluate]; exact ih.bind fun v => convert_touches_none _ v
  | refer c =>
    rw [evaluate, evaluateCall]
    exact invoke_touches_none hsim c.name (TouchesOnly.pure source)
  | apply c argument ih => rw [evaluate, evaluateCall]; exact invoke_touches_none hsim c.name ih
  | nullCheck guard inner ih => rw [evaluate]; exact ih
  | merge guard check property inner ih => rw [evaluate]; exact ih
  | setter setting inner fallback ih => rw [evaluate]; exact ih

theorem produce_touches_none (hsim : simulator.MutatesNothing) (source : Value)
    (a : Assignment) : TouchesOnly [] (simulator.produce source a) := by
  refine (evaluate_touches_none hsim source a).bind fun v => ?_
  split
  · exact TouchesOnly.copy v
  · exact TouchesOnly.pure v

/-- What is produced of a direct assignment is none of the containers that were there before. -/
theorem returns_produce_new (hsim : simulator.MutatesNothing) {a : Assignment}
    (hdirect : a.innermost.isDirect = true)
    (h : Returns (simulator.produce source a) heap value heap') : heap.contents? value = none := by
  obtain ⟨v, between, hv, h⟩ := returns_bind.1 h
  rw [hdirect, if_pos rfl] at h
  have hnew := returns_copy_new h
  cases hc : heap.contents? value with
  | none => rfl
  | some contents =>
    have hkept := (evaluate_touches_none hsim source a).returns hv List.not_mem_nil hc
    rw [hnew] at hkept
    cases hkept

/-! ## Writing -/

theorem set_cases (hsim : simulator.MutatesNothing) (setting : Setting) (inner : Assignment)
    (fallback : Option Assignment) (slot source : Value) :
    simulator.set setting inner fallback slot source = simulator.produce source inner ∨
      source = .null ∧ TouchesOnly [] (simulator.set setting inner fallback slot source) := by
  by_cases hsource : source = .null
  · subst hsource
    unfold set
    split
    · exact Or.inl rfl
    · refine Or.inr ⟨rfl, ?_⟩
      split
      · exact evaluate_touches_none hsim .null _
      · split
        · exact TouchesOnly.pure _
        · split
          · exact defaultValue_touches_none _ _
          · exact TouchesOnly.pure _
  · have hnull := Value.isNull_eq_false hsource
    refine Or.inl ?_
    simp only [set, hnull, Bool.not_false, Bool.or_true, if_true]

theorem merge_refill (guard : Guard) (check : NullValueCheck) (property : NullValueProperty)
    (inner : Assignment) (hslot : slot ≠ .null) (hsource : source ≠ .null) :
    simulator.merge guard check property inner slot source =
      simulator.evaluate source inner >>= refill slot := by
  simp only [merge, Value.isNull_eq_false hslot, Value.isNull_eq_false hsource,
    Bool.false_eq_true, if_false, Bool.not_false, if_true]
  rfl

theorem merge_cases (guard : Guard) (check : NullValueCheck) (property : NullValueProperty)
    (inner : Assignment) (slot source : Value) :
    (slot ≠ .null ∧ source ≠ .null) ∨
    simulator.merge guard check property inner slot source = simulator.produce source inner ∨
    source = .null ∧
      TouchesOnly [] (simulator.merge guard check property inner slot source) := by
  -- a merge fills a container only from another; all else is production, or no source at all
  by_cases hsource : source = .null
  · subst hsource
    refine Or.inr (Or.inr ⟨rfl, ?_⟩)
    unfold merge
    split
    · exact TouchesOnly.pure slot
    · simp only [Value.isNull, Bool.not_true, Bool.false_eq_true, if_false]
      split
      · split
        · exact emptyContainer_touches_none _ _
        · exact TouchesOnly.pure _
      · exact TouchesOnly.pure _
  · by_cases hslot : slot = .null
    · subst hslot
      refine Or.inr (Or.inl ?_)
      rw [merge, Value.isNull_eq_false hsource]
      rfl
    · exact Or.inl ⟨hslot, hsource⟩

/-- All that a property assignment can do: refill the container of the slot, produce a value, or
let a missing source leave or reset the slot. -/
theorem write_cases (hsim : simulator.MutatesNothing) (slot source : Value) (a : Assignment) :
    (∃ guard check property inner, a = .merge guard check property inner ∧ slot ≠ .null ∧
      source ≠ .null ∧
      simulator.write slot source a = simulator.evaluate source inner >>= refill slot) ∨
    (∃ expression, expression.innermost = a.innermost ∧
      simulator.write slot source a = simulator.produce source expression) ∨
    source = .null ∧ TouchesOnly [] (simulator.write slot source a) := by
  cases a with
  | merge guard check property inner =>
    rcases merge_cases guard check property inner slot source with
      ⟨hslot, hsource⟩ | h | h
    · exact Or.inl ⟨guard, check, property, inner, rfl, hslot, hsource,
        merge_refill guard check property inner hslot hsource⟩
    · exact Or.inr (Or.inl ⟨inner, by rw [Assignment.innermost], h⟩)
    · exact Or.inr (Or.inr h)
  | setter setting inner fallback =>
    rcases set_cases hsim setting inner fallback slot source with h | h
    · exact Or.inr (Or.inl ⟨inner, by rw [Assignment.innermost], h⟩)
    · exact Or.inr (Or.inr h)
  | nullCheck guard inner =>
    by_cases hsource : source = .null
    · subst hsource
      exact Or.inr (Or.inr ⟨rfl, TouchesOnly.pure slot⟩)
    · refine Or.inr (Or.inl ⟨inner, by rw [Assignment.innermost], ?_⟩)
      rw [write, Value.isNull_eq_false hsource, if_neg Bool.false_ne_true]
  | direct v presence => exact Or.inr (Or.inl ⟨_, rfl, rfl⟩)
  | convert c argument => exact Or.inr (Or.inl ⟨_, rfl, rfl⟩)
  | call reference => exact Or.inr (Or.inl ⟨_, rfl, rfl⟩)

/-- **The frame of a property assignment.** Whether it succeeds or fails, it leaves the contents of
all lists and maps as they are, but for the one that the slot holds if a merge runs on it with a
source. And a list or map that is taken as it is, and is not what the slot holds already, is not
what the slot holds after it. -/
theorem write_frame (hsim : simulator.MutatesNothing) (heap : Heap) (slot source : Value)
    (a : Assignment) :
    (∀ v contents, heap.contents? v = some contents →
      ((simulator.write slot source a).run.run heap).2.contents? v = some contents ∨
        (v = slot ∧ (∃ guard check property inner, a = .merge guard check property inner) ∧
          slot ≠ .null ∧ source ≠ .null)) ∧
    (a.innermost.isDirect = true → (heap.contents? source).isSome = true → slot ≠ source →
      ∀ result heap', Returns (simulator.write slot source a) heap result heap' →
        result ≠ source) := by
  rcases write_cases hsim slot source a with
    ⟨guard, check, property, inner, rfl, hslot, hsource, hrun⟩ | ⟨expression, hinner, hrun⟩ |
      ⟨rfl, hrun⟩
  · constructor
    · intro v contents hv
      by_cases hvs : v = slot
      · exact Or.inr ⟨hvs, ⟨guard, check, property, inner, rfl⟩, hslot, hsource⟩
      -- all but the container of the slot is touched neither before the merge nor by it
      · have htouches : TouchesOnly [slot] (simulator.evaluate source inner >>= refill slot) :=
          (evaluate_touches_none hsim source inner).of_none.bind (TouchesOnly.refill slot)
        rw [hrun]
        exact Or.inl (htouches heap v contents (by simpa using hvs) hv)
    · intro _ _ hne result heap' h
      rw [hrun] at h
      obtain ⟨produced, between, -, h⟩ := returns_bind.1 h
      rw [returns_refill h]
      exact hne
  · rw [hrun]
    constructor
    · intro v contents hv
      exact Or.inl (produce_touches_none hsim source expression heap v contents List.not_mem_nil hv)
    · intro hdirect hsource _ result heap' h
      rw [← hinner] at hdirect
      -- a copy is at an address that the heap did not have
      have hnew := returns_produce_new hsim hdirect h
      rintro rfl
      rw [hnew] at hsource
      cases hsource
  · exact ⟨fun v contents hv => Or.inl (hrun heap v contents List.not_mem_nil hv),
      fun _ hsource => by cases hsource⟩

end Simulator

/-! ## A shelf that is refilled -/

namespace Refilled

/-- A simulator whose one method copies its argument. -/
def simulator : Simulator where
  table := {}
  behavior? name := if name = "copy" then some Run.copy else none

theorem simulator_mutatesNothing : simulator.MutatesNothing := by
  intro name behavior argument hb
  simp only [simulator] at hb
  split at hb
  · cases hb; exact TouchesOnly.copy argument
  · cases hb

def heap : Heap := { lists := [[.text "old"], [.text "new"]] }

/-- A list of texts, merged into that of the slot. -/
def assignment : Assignment :=
  .merge { target := .named Platform.list } .onImplicitConversion .setToNull
    (.direct (.ofParameter "notes" (.named Platform.list)) .unchecked)

/-- The second list is merged into the first, and stays as it is. -/
theorem write_frame_refilled : simulator.MutatesNothing ∧
    Returns (simulator.write (.list 0) (.list 1) assignment) heap (.list 0)
      { lists := [[.text "new"], [.text "new"]] } ∧
    ((simulator.write (.list 0) (.list 1) assignment).run.run heap).2.contents? (.list 1) =
      some (.items [.text "new"]) ∧
    (.list 0 : Value) ≠ .list 1 := by
  have hrun : Returns (simulator.write (.list 0) (.list 1) assignment) heap (.list 0)
      { lists := [[.text "new"], [.text "new"]] } := rfl
  obtain ⟨hkept, hshared⟩ :=
    Simulator.write_frame simulator_mutatesNothing heap (.list 0) (.list 1) assignment
  refine ⟨simulator_mutatesNothing, hrun, ?_, hshared rfl rfl (by decide) _ _ hrun⟩
  rcases hkept (.list 1) (.items [.text "new"]) rfl with h | ⟨h, -⟩
  · exact h
  · cases h

end Refilled

end BeanMapper.Simulation
