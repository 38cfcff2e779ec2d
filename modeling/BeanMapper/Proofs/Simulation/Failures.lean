import BeanMapper.Proofs.Simulation.Frames

/-!
# What a failed step leaves behind

A step that fills a container again works in two stages: first its new contents are produced, then
the container is emptied and they are added. If no method mutates a container, everything that can
go wrong in the first stage goes wrong before anything has changed. In the second stage one thing
is left that can: that the contents are not of the container's kind. Then the container has been
emptied already. This is all that a failed step ever changes (`Simulator.failure_frame`).
-/

namespace BeanMapper.Simulation

open Run

/-! ## Emptying and filling -/

/-- Whether both values are lists, or both are maps. -/
def Value.sameKind : Value → Value → Bool
  | .list _, .list _ => true
  | .map _, .map _ => true
  | _, _ => false

section Refilling

variable {heap heap' : Heap} {target source value : Value} {held : Contents} {e : Failure}

theorem contents?_clear (hheld : heap.contents? target = some held) {u : Unit}
    (h : Returns (clear target) heap u heap') :
    heap'.contents? target = some held.emptied := by
  cases target with
  | list address =>
    obtain ⟨items, hitems, rfl⟩ := Option.map_eq_some_iff.1 hheld
    obtain ⟨hlt, -⟩ := List.getElem?_eq_some_iff.1 hitems
    cases h
    simp only [Heap.contents?, Heap.setItems, List.getElem?_set_self hlt, Option.map_some,
      Contents.emptied]
  | map address =>
    obtain ⟨entries, hentries, rfl⟩ := Option.map_eq_some_iff.1 hheld
    obtain ⟨hlt, -⟩ := List.getElem?_eq_some_iff.1 hentries
    cases h
    simp only [Heap.contents?, Heap.setEntries, List.getElem?_set_self hlt, Option.map_some,
      Contents.emptied]
  | _ => cases hheld

/-- What cannot be emptied is not in the heap, and the heap stays as it is. -/
theorem fails_clear (h : Fails (clear target) heap e heap') :
    heap' = heap ∧ heap.contents? target = none := by
  cases target <;> cases h <;> exact ⟨rfl, rfl⟩

/-- What cannot be added is of another kind, and the heap stays as it is. -/
theorem fails_extend (h : Fails (extend target source) heap e heap') :
    heap' = heap ∧ target.sameKind source = false := by
  cases target <;> cases source <;> cases h <;> exact ⟨rfl, rfl⟩

/-- A container that cannot be filled again is left as it is if it is none, and empty if its new
contents are of another kind. -/
theorem fails_refill (h : Fails (refill target source) heap e heap') :
    (heap' = heap ∧ heap.contents? target = none) ∨
      (target.sameKind source = false ∧ Returns (clear target) heap () heap') := by
  rcases fails_bind.1 h with h | ⟨⟨⟩, cleared, hclear, h⟩
  · exact Or.inl (fails_clear h)
  rcases fails_bind.1 h with h | ⟨-, extended, -, h⟩
  · obtain ⟨rfl, hkind⟩ := fails_extend h
    exact Or.inr ⟨hkind, hclear⟩
  · exact absurd h not_fails_pure

end Refilling

/-! ## Steps -/

namespace Simulator

variable {simulator : Simulator} {heap heap' : Heap} {v : Value} {held : Contents} {e : Failure}

/-- A list of what the items of a list are mapped to. -/
def mappedList (simulator : Simulator) (element : Assignment) (address : Nat) : Run Value := do
  let items ← Run.view fun heap => heap.items address
  let mapped ← items.mapM fun item => simulator.evaluate item element
  Run.newList mapped

/-- A map of what the entries of a map are mapped to. -/
def mappedMap (simulator : Simulator) (key value : Assignment) (address : Nat) : Run Value := do
  let entries ← Run.view fun heap => heap.entries address
  let mapped ← simulator.mapEntries key value [] entries
  Run.newMap mapped

theorem mappedList_touches_none (hsim : simulator.MutatesNothing) (element : Assignment)
    (address : Nat) : TouchesOnly [] (simulator.mappedList element address) := by
  refine (TouchesOnly.view _).bind fun items => TouchesOnly.bind ?_ TouchesOnly.newList
  exact TouchesOnly.mapM (fun item => evaluate_touches_none hsim item element) items

theorem keyOf_touches_none (v : Value) : TouchesOnly [] (keyOf v) := by
  cases v with
  | text text => exact TouchesOnly.pure _
  | integer number => exact TouchesOnly.pure _
  | _ => exact TouchesOnly.throw _

theorem mapEntries_touches_none (hsim : simulator.MutatesNothing) (key value : Assignment)
    (entries mapped : Entries) :
    TouchesOnly [] (simulator.mapEntries key value mapped entries) := by
  induction entries generalizing mapped with
  | nil => exact TouchesOnly.pure mapped
  | cons entry rest ih =>
    refine (evaluate_touches_none hsim _ key).bind fun k =>
      (keyOf_touches_none k).bind fun name => ?_
    exact (evaluate_touches_none hsim entry.2 value).bind fun item => ih _

theorem mappedMap_touches_none (hsim : simulator.MutatesNothing) (key value : Assignment)
    (address : Nat) : TouchesOnly [] (simulator.mappedMap key value address) :=
  (TouchesOnly.view _).bind fun entries =>
    (mapEntries_touches_none hsim key value entries []).bind TouchesOnly.newMap

/-- A container method fails before it has changed anything, or goes on from the target that it
updates or from none. -/
theorem fails_updated {isUpdate : Bool} {existing : Option Value} {body : Option Value → Run Value}
    (h : Fails (updated isUpdate existing >>= body) heap e heap') :
    heap' = heap ∨ ∃ target, (∀ v, target = some v → isUpdate = true ∧ existing = some v) ∧
      Fails (body target) heap e heap' := by
  unfold updated at h
  split at h
  · rename_i hupdate
    split at h
    · exact Or.inr ⟨_, fun v hv => ⟨hupdate, hv⟩, h⟩
    · cases h
      exact Or.inl rfl
  · exact Or.inr ⟨none, fun v hv => absurd hv (by simp), h⟩

theorem missing_fails {strategy : NullValueMapping} {target : Option Value} {empty : Run Value}
    (hempty : TouchesOnly [] empty) (h : Fails (missing strategy target empty) heap e heap')
    (hv : heap.contents? v = some held) : heap'.contents? v = some held := by
  unfold missing at h
  split at h
  · exact absurd h not_fails_pure
  · rcases fails_bind.1 h with h | ⟨⟨⟩, cleared, -, h⟩
    · rw [(fails_clear h).1]
      exact hv
    · exact absurd h not_fails_pure
  · exact hempty.fails h List.not_mem_nil hv

end Simulator

/-- A step of generated code with the values it is run on: a property assignment with what the slot
holds, or a container method with the target that an update is given. -/
inductive Step where
  | property (assignment : Assignment) (slot source : Value)
  | iterable (method : GeneratedMethod) (element : Assignment) (source : Value)
      (existing : Option Value)
  | map (method : GeneratedMethod) (key value : Assignment) (source : Value)
      (existing : Option Value)

namespace Step

def run (simulator : Simulator) : Step → Run Value
  | property assignment slot source => simulator.write slot source assignment
  | iterable method element source existing =>
    simulator.runIterable method element source existing
  | map method key value source existing => simulator.runMap method key value source existing

/-- What the slot holds, or the target that a container method is given. -/
def held : Step → Option Value
  | property _ slot _ => some slot
  | iterable _ _ _ existing => existing
  | map _ _ _ _ existing => existing

/-- What is held there after the step: a slot takes the value that has been written, if one has. -/
def heldAfter : Step → Except Failure Value → Option Value
  | property _ _ _, .ok value => some value
  | step, _ => step.held

/-- The step fills a container again with what a run gives. -/
inductive Refills (simulator : Simulator) : Step → Value → Run Value → Prop
  | merge {guard : Guard} {check : NullValueCheck} {property : NullValueProperty}
      {inner : Assignment} {slot source : Value} (hslot : slot ≠ .null) (hsource : source ≠ .null) :
      Refills simulator (.property (.merge guard check property inner) slot source) slot
        (simulator.evaluate source inner)
  | iterable {method : GeneratedMethod} {element : Assignment} {address : Nat} {target : Value}
      (hupdate : method.isUpdate = true) :
      Refills simulator (.iterable method element (.list address) (some target)) target
        (simulator.mappedList element address)
  | map {method : GeneratedMethod} {key value : Assignment} {address : Nat} {target : Value}
      (hupdate : method.isUpdate = true) :
      Refills simulator (.map method key value (.map address) (some target)) target
        (simulator.mappedMap key value address)

/-- The step fills the container again, and its new contents are produced, but are no container of
its kind. -/
def Strands (simulator : Simulator) (step : Step) (heap : Heap) (target : Value) : Prop :=
  ∃ run produced between, step.Refills simulator target run ∧ Returns run heap produced between ∧
    target.sameKind produced = false

variable {simulator : Simulator} {step : Step} {target v : Value} {contents : Run Value}
  {heap heap' : Heap} {held : Contents} {e : Failure}

/-! ## The two stages -/

theorem Refills.run_eq (h : step.Refills simulator target contents) :
    step.run simulator = contents >>= refill target := by
  cases h with
  | merge hslot hsource => exact Simulator.merge_refill _ _ _ _ hslot hsource
  | iterable hupdate =>
    simp only [run, Simulator.runIterable, Simulator.updated, hupdate, if_true, pure_bind,
      Simulator.mappedList, bind_assoc]
    rfl
  | map hupdate =>
    simp only [run, Simulator.runMap, Simulator.updated, hupdate, if_true, pure_bind,
      Simulator.mappedMap, bind_assoc]
    rfl

theorem Refills.touches_none (hsim : simulator.MutatesNothing)
    (h : step.Refills simulator target contents) : TouchesOnly [] contents := by
  cases h with
  | merge => exact Simulator.evaluate_touches_none hsim _ _
  | iterable => exact Simulator.mappedList_touches_none hsim _ _
  | map => exact Simulator.mappedMap_touches_none hsim _ _ _

/-- Without a container to fill again, a step that fails has changed none. -/
theorem kept_of_not_refills (hsim : simulator.MutatesNothing)
    (hnone : ∀ target contents, ¬step.Refills simulator target contents)
    (h : Fails (step.run simulator) heap e heap') (hv : heap.contents? v = some held) :
    heap'.contents? v = some held := by
  cases step with
  | property assignment slot source =>
    refine TouchesOnly.fails ?_ h List.not_mem_nil hv
    rcases Simulator.write_cases hsim slot source assignment with
      ⟨guard, check, property, inner, rfl, hslot, hsource, -⟩ | ⟨expression, -, hrun⟩ | ⟨-, hrun⟩
    -- a merge into a container is what fills it again
    · exact absurd (.merge hslot hsource) (hnone slot _)
    · rw [run, hrun]
      exact Simulator.produce_touches_none hsim source expression
    · exact hrun
  | iterable method element source existing =>
    rcases Simulator.fails_updated h with rfl | ⟨target, htarget, h⟩
    · exact hv
    cases source with
    | null => exact Simulator.missing_fails (TouchesOnly.newList []) h hv
    | list address =>
      cases target with
      | some target =>
        -- with a target to fill, the step would fill it again
        obtain ⟨hupdate, rfl⟩ := htarget target rfl
        exact absurd (.iterable hupdate) (hnone target _)
      | none =>
        refine TouchesOnly.fails ?_ h List.not_mem_nil hv
        exact (TouchesOnly.view _).bind fun items =>
          (TouchesOnly.mapM (fun item => Simulator.evaluate_touches_none hsim item element)
            items).bind fun mapped => (TouchesOnly.newList mapped).bind TouchesOnly.pure
    | _ => exact TouchesOnly.fails (TouchesOnly.throw _) h List.not_mem_nil hv
  | map method key value source existing =>
    rcases Simulator.fails_updated h with rfl | ⟨target, htarget, h⟩
    · exact hv
    cases source with
    | null => exact Simulator.missing_fails (TouchesOnly.newMap []) h hv
    | map address =>
      cases target with
      | some target =>
        obtain ⟨hupdate, rfl⟩ := htarget target rfl
        exact absurd (.map hupdate) (hnone target _)
      | none =>
        refine TouchesOnly.fails ?_ h List.not_mem_nil hv
        exact (TouchesOnly.view _).bind fun entries =>
          (Simulator.mapEntries_touches_none hsim key value entries []).bind fun mapped =>
            (TouchesOnly.newMap mapped).bind TouchesOnly.pure
    | _ => exact TouchesOnly.fails (TouchesOnly.throw _) h List.not_mem_nil hv

/-- A step that fails has not changed a container unless it has stranded it. -/
theorem Refills.kept (hsim : simulator.MutatesNothing)
    (hrefills : step.Refills simulator target contents)
    (h : Fails (step.run simulator) heap e heap') (hv : heap.contents? v = some held)
    (hstrands : ¬step.Strands simulator heap v) : heap'.contents? v = some held := by
  rw [hrefills.run_eq] at h
  rcases fails_bind.1 h with h | ⟨produced, between, hproduced, h⟩
  · exact (hrefills.touches_none hsim).fails h List.not_mem_nil hv
  have hbetween := (hrefills.touches_none hsim).returns hproduced List.not_mem_nil hv
  rcases fails_refill h with ⟨rfl, -⟩ | ⟨hkind, hclear⟩
  · exact hbetween
  · have hne : v ≠ target := by
      rintro rfl
      exact hstrands ⟨contents, produced, between, hrefills, hproduced, hkind⟩
    exact (TouchesOnly.clear target).returns hclear (by simpa using hne) hbetween

/-- A container that is stranded is empty. -/
theorem Strands.emptied (hsim : simulator.MutatesNothing) (hstrands : step.Strands simulator heap v)
    (h : Fails (step.run simulator) heap e heap') (hv : heap.contents? v = some held) :
    heap'.contents? v = some held.emptied := by
  obtain ⟨contents, produced, between, hrefills, hproduced, -⟩ := hstrands
  have hbetween := (hrefills.touches_none hsim).returns hproduced List.not_mem_nil hv
  rw [hrefills.run_eq] at h
  rw [fails_bind_of_returns hproduced] at h
  rcases fails_refill h with ⟨-, hnone⟩ | ⟨-, hclear⟩
  · rw [hbetween] at hnone
    cases hnone
  · exact contents?_clear hbetween hclear

end Step

namespace Simulator

/-- **What a failed step leaves behind.** The slot holds what it held, and every list and map has
the contents that it had, but for the one that the step was filling again with contents that are no
container of its kind; that one is empty. -/
theorem failure_frame {simulator : Simulator} {step : Step} {heap heap' : Heap} {e : Failure}
    (hsim : simulator.MutatesNothing) (h : Fails (step.run simulator) heap e heap') :
    step.heldAfter (.error e) = step.held ∧
      ∀ v contents, heap.contents? v = some contents →
        (¬step.Strands simulator heap v → heap'.contents? v = some contents) ∧
          (step.Strands simulator heap v → heap'.contents? v = some contents.emptied) := by
  refine ⟨by cases step <;> rfl, fun v held hv => ⟨fun hstrands => ?_, fun hstrands =>
    hstrands.emptied hsim h hv⟩⟩
  by_cases hrefills : ∃ target contents, step.Refills simulator target contents
  · obtain ⟨target, contents, hrefills⟩ := hrefills
    exact hrefills.kept hsim h hv hstrands
  · exact Step.kept_of_not_refills hsim
      (fun target contents hr => hrefills ⟨target, contents, hr⟩) h hv

end Simulator

/-! ## Notes that are lost -/

namespace Notes

/-- A simulator whose one method returns null. -/
def simulator : Simulator where
  table := {}
  behavior? name := if name = "split" then some fun _ => return .null else none

theorem simulator_mutatesNothing : simulator.MutatesNothing := by
  intro name behavior argument hb
  simp only [simulator] at hb
  split at hb
  · cases hb; exact TouchesOnly.pure _
  · cases hb

def heap : Heap := { lists := [[.text "old"], [.text "label"]] }

/-- What a method makes of a text, merged into the list of the slot. -/
def assignment : Assignment :=
  .merge { target := .named Platform.list } .onImplicitConversion .setToNull
    (.call (.mk
      { name := "split", provider := .mapper, bindings := [], typeBindings := [],
        returnType := .named Platform.list, thrownTypes := [], imports := [] } none))

def step : Step := .property assignment (.list 0) (.text "new")

def heapAfter : Heap := { lists := [[], [.text "label"]] }

theorem step_fails : Fails (step.run simulator) heap .nullDereference heapAfter := rfl

/-- The method returns no list, so the notes are emptied; the labels stay as they are. -/
theorem failure_frame_notes : simulator.MutatesNothing ∧
    Fails (step.run simulator) heap .nullDereference heapAfter ∧
    step.Strands simulator heap (.list 0) ∧ ¬step.Strands simulator heap (.list 1) ∧
    heapAfter.contents? (.list 0) = some (.items []) ∧
    heapAfter.contents? (.list 1) = some (.items [.text "label"]) := by
  have hstrands : step.Strands simulator heap (.list 0) :=
    ⟨_, .null, heap, .merge (by decide) (by decide), rfl, rfl⟩
  have hspares : ¬step.Strands simulator heap (.list 1) := by
    rintro ⟨_, _, _, hrefills, -, -⟩
    cases hrefills
  obtain ⟨-, hframe⟩ := Simulator.failure_frame simulator_mutatesNothing step_fails
  exact ⟨simulator_mutatesNothing, step_fails, hstrands, hspares,
    (hframe (.list 0) (.items [.text "old"]) rfl).2 hstrands,
    (hframe (.list 1) (.items [.text "label"]) rfl).1 hspares⟩

/-- The step fails, but the notes are not what they were. -/
theorem not_always_unchanged : ¬∀ (simulator : Simulator) (step : Step) (heap heap' : Heap)
    (e : Failure), simulator.MutatesNothing → Fails (step.run simulator) heap e heap' →
    step.heldAfter (.error e) = step.held ∧
      ∀ v contents, heap.contents? v = some contents → heap'.contents? v = some contents := by
  intro hall
  obtain ⟨-, hkept⟩ := hall simulator step heap _ _ simulator_mutatesNothing step_fails
  have h := hkept (.list 0) (.items [.text "old"]) rfl
  cases h

end Notes

end BeanMapper.Simulation
