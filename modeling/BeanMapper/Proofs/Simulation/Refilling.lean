import BeanMapper.Proofs.Simulation.Failures

/-!
# Refilling the container of a slot

A merge with a source empties the container that the slot holds and puts in what the value of its
expression holds. `Contents.add` says what adding makes of contents, and a map that is empty takes
over the entries of another one as they are because a map has each key once (`Heap.Keyed`).
`Run.Orderly` is what every step keeps: no container goes away, and maps have each key once.

The merge succeeds and the slot keeps its container, which then holds what the value held, unless
the value is that very container: it has been emptied before it is read
(`Simulator.write_merge_refills`, `Circulars.not_always_refilled`).
-/

namespace BeanMapper.Simulation

open Run

/-! ## Entries put into a map -/

namespace Entries

variable {entries others : Entries} {key : String} {value : Value}

theorem put_of_not_mem (h : key ∉ entries.keys) :
    put key value entries = entries ++ [(key, value)] := by
  induction entries with
  | nil => rfl
  | cons entry rest ih =>
    obtain ⟨name, old⟩ := entry
    simp only [keys, List.map_cons, List.mem_cons, not_or] at h
    rw [put, if_neg (Ne.symm h.1), ih h.2]
    rfl

/-- Entries with other keys come behind those that are there. -/
theorem putAll_eq_append (h : (entries ++ others).keys.Nodup) :
    entries.putAll others = entries ++ others := by
  induction others generalizing entries with
  | nil => exact (List.append_nil entries).symm
  | cons entry rest ih =>
    obtain ⟨name, value⟩ := entry
    have hname : name ∉ entries.keys := by
      intro hmem
      rw [keys, List.map_append, List.nodup_append] at h
      exact h.2.2 name hmem name (by simp) rfl
    have hrest : ((entries ++ [(name, value)]) ++ rest).keys.Nodup := by
      rw [List.append_assoc]
      exact h
    change (entries.put name value).putAll rest = _
    rw [put_of_not_mem hname, ih hrest, List.append_assoc]
    rfl

end Entries

/-- The contents with others of their kind added. -/
def Contents.add : Contents → Contents → Contents
  | items held, items others => items (held ++ others)
  | entries held, entries others => entries (held.putAll others)
  | held, _ => held

/-- Each key once. -/
def Contents.Keyed : Contents → Prop
  | items _ => True
  | entries held => held.keys.Nodup

namespace Contents

variable {contents : Contents}

/-- Nothing with contents added to it is these contents. -/
theorem emptied_add (h : contents.Keyed) : contents.emptied.add contents = contents := by
  cases contents with
  | items items => rfl
  | entries held =>
    have hentries : ([] ++ held : Entries).keys.Nodup := h
    exact congrArg Contents.entries (Entries.putAll_eq_append hentries)

/-- Nothing with nothing added to it is nothing. -/
theorem emptied_add_emptied (contents : Contents) :
    contents.emptied.add contents.emptied = contents.emptied := by
  cases contents <;> rfl

end Contents

namespace Heap

variable {heap between heap' : Heap} {value : Value} {contents held : Contents}

/-- Every map has each key once. -/
def Keyed (heap : Heap) : Prop := ∀ entries ∈ heap.maps, entries.keys.Nodup

theorem keyed_contents (h : heap.Keyed) (hv : heap.contents? value = some contents) :
    contents.Keyed := by
  cases value with
  | list address =>
    obtain ⟨items, -, rfl⟩ := Option.map_eq_some_iff.1 hv
    trivial
  | map address =>
    obtain ⟨entries, hentries, rfl⟩ := Option.map_eq_some_iff.1 hv
    exact h entries (List.mem_of_getElem? hentries)
  | _ => cases hv

/-- Contents of one kind are nothing alike. -/
theorem emptied_eq_of_sameKind {other : Value} (hkind : value.sameKind other = true)
    (hv : heap.contents? value = some held) (ho : between.contents? other = some contents) :
    held.emptied = contents.emptied := by
  cases value with
  | list a =>
    cases other with
    | list b =>
      obtain ⟨_, -, rfl⟩ := Option.map_eq_some_iff.1 hv
      obtain ⟨_, -, rfl⟩ := Option.map_eq_some_iff.1 ho
      rfl
    | _ => cases hkind
  | map a =>
    cases other with
    | map b =>
      obtain ⟨_, -, rfl⟩ := Option.map_eq_some_iff.1 hv
      obtain ⟨_, -, rfl⟩ := Option.map_eq_some_iff.1 ho
      rfl
    | _ => cases hkind
  | _ => cases hkind

/-- What a step may make of a heap: every container is still there, and maps have each key once if
they had before. -/
structure Evolves (heap heap' : Heap) : Prop where
  keeps : ∀ v, (heap.contents? v).isSome = true → (heap'.contents? v).isSome = true
  keyed : heap.Keyed → heap'.Keyed

theorem Evolves.refl (heap : Heap) : heap.Evolves heap := ⟨fun _ h => h, fun h => h⟩

theorem Evolves.trans (h : heap.Evolves between) (h' : between.Evolves heap') :
    heap.Evolves heap' :=
  ⟨fun v hv => h'.keeps v (h.keeps v hv), fun hk => h'.keyed (h.keyed hk)⟩

end Heap

/-! ## Orderly runs -/

namespace Run

variable {α β : Type} {heap heap' : Heap}

/-- The run loses no container and keeps the keys of maps apart, whether it fails or not. -/
def Orderly (run : Run α) : Prop := ∀ heap : Heap, heap.Evolves (run.run.run heap).2

theorem Orderly.pure (a : α) : Orderly (pure a : Run α) := fun heap => .refl heap

theorem Orderly.throw (e : Failure) : Orderly (throw e : Run α) := fun heap => .refl heap

theorem Orderly.bind {run : Run α} {next : α → Run β} (h : Orderly run)
    (hn : ∀ a, Orderly (next a)) : Orderly (run >>= next) := by
  intro heap
  have hbetween := h heap
  rw [run_bind]
  rcases hr : run.run.run heap with ⟨e | a, between⟩ <;> rw [hr] at hbetween
  · exact hbetween
  · exact hbetween.trans (hn a between)

theorem Orderly.returns {run : Run α} {a : α} (h : Orderly run) (hr : Returns run heap a heap') :
    heap.Evolves heap' := by
  have h := h heap
  rw [hr] at h
  exact h

/-! ## Emptying and filling succeed -/

variable {target source : Value} {held contents : Contents}

theorem exists_returns_clear (hheld : heap.contents? target = some held) :
    ∃ heap', Returns (clear target) heap () heap' := by
  cases target with
  | list address => exact ⟨_, rfl⟩
  | map address => exact ⟨_, rfl⟩
  | _ => cases hheld

/-- What can be added is added. -/
theorem returns_extend (hkind : target.sameKind source = true)
    (hheld : heap.contents? target = some held) (hsource : heap.contents? source = some contents) :
    ∃ heap', Returns (extend target source) heap () heap' ∧
      heap'.contents? target = some (held.add contents) := by
  cases target with
  | list a =>
    cases source with
    | list b =>
      obtain ⟨items, ha, rfl⟩ := Option.map_eq_some_iff.1 hheld
      obtain ⟨others, hb, rfl⟩ := Option.map_eq_some_iff.1 hsource
      obtain ⟨hlt, -⟩ := List.getElem?_eq_some_iff.1 ha
      refine ⟨_, rfl, ?_⟩
      simp only [Heap.contents?, Heap.setItems, Heap.items, ha, hb, Option.getD_some,
        List.getElem?_set_self hlt, Option.map_some, Contents.add]
    | _ => cases hkind
  | map a =>
    cases source with
    | map b =>
      obtain ⟨entries, ha, rfl⟩ := Option.map_eq_some_iff.1 hheld
      obtain ⟨others, hb, rfl⟩ := Option.map_eq_some_iff.1 hsource
      obtain ⟨hlt, -⟩ := List.getElem?_eq_some_iff.1 ha
      refine ⟨_, rfl, ?_⟩
      simp only [Heap.contents?, Heap.setEntries, Heap.entries, ha, hb, Option.getD_some,
        List.getElem?_set_self hlt, Option.map_some, Contents.add]
    | _ => cases hkind
  | _ => cases hkind

/-- A container that is refilled holds what the other one held, or nothing if there is no other. -/
theorem returns_refill_contents (hkind : target.sameKind source = true)
    (hheld : heap.contents? target = some held) (hsource : heap.contents? source = some contents)
    (hkeyed : contents.Keyed) :
    ∃ heap', Returns (refill target source) heap target heap' ∧
      heap'.contents? target = some (if source = target then contents.emptied else contents) := by
  have hkinds := Heap.emptied_eq_of_sameKind hkind hheld hsource
  obtain ⟨cleared, hclear⟩ := exists_returns_clear hheld
  have htarget : cleared.contents? target = some contents.emptied := by
    rw [contents?_clear hheld hclear, hkinds]
  -- what is added is read after the target has been emptied
  have hread : cleared.contents? source =
      some (if source = target then contents.emptied else contents) := by
    split
    · rename_i hsame
      rw [hsame, htarget]
    · rename_i hother
      exact (TouchesOnly.clear target).returns hclear (by simpa using hother) hsource
  obtain ⟨heap', hextend, hadded⟩ := returns_extend hkind htarget hread
  refine ⟨heap', returns_bind.2 ⟨(), cleared, hclear,
    returns_bind.2 ⟨(), heap', hextend, returns_pure.2 ⟨rfl, rfl⟩⟩⟩, ?_⟩
  rw [hadded]
  split
  · rw [Contents.emptied_add_emptied]
  · rw [Contents.emptied_add hkeyed]

end Run

/-! ## Merging -/

theorem convert_orderly (target : Ty) (v : Value) : Orderly (convert target v) := by
  cases v with
  | text text =>
    simp only [convert]
    split
    · split
      · exact Orderly.pure _
      · exact Orderly.throw _
    · exact Orderly.pure _
  | _ => exact Orderly.pure _

namespace Simulator

variable {simulator : Simulator}

/-- No method loses a container or gives a map a key twice. -/
def Orderly (simulator : Simulator) : Prop :=
  ∀ name behavior argument, simulator.behavior? name = some behavior →
    Run.Orderly (behavior argument)

theorem invoke_orderly (hsim : simulator.Orderly) (name : String) {argument : Run Value}
    (h : Run.Orderly argument) : Run.Orderly (simulator.invoke name argument) := by
  unfold invoke
  split
  · exact Orderly.throw _
  · rename_i behavior hb
    exact h.bind fun v => hsim name behavior v hb

theorem evaluate_orderly (hsim : simulator.Orderly) (source : Value) (a : Assignment) :
    Run.Orderly (simulator.evaluate source a) := by
  induction a using Assignment.byParts with
  | direct v presence => rw [evaluate]; exact Orderly.pure _
  | convert c argument ih => rw [evaluate]; exact ih.bind fun v => convert_orderly _ v
  | refer c =>
    rw [evaluate, evaluateCall]
    exact invoke_orderly hsim c.name (Orderly.pure source)
  | apply c argument ih => rw [evaluate, evaluateCall]; exact invoke_orderly hsim c.name ih
  | nullCheck guard inner ih => rw [evaluate]; exact ih
  | merge guard check property inner ih => rw [evaluate]; exact ih
  | setter setting inner fallback ih => rw [evaluate]; exact ih

/-- **A merge refills the container of its slot.** With a source whose value is a container of the
same kind, a merge succeeds and leaves the slot its container, with what the value holds once it is
there; if no method mutates a container, that is what it held before. But if the value is that
container itself, nothing is left in it. -/
theorem write_merge_refills {guard : Guard} {check : NullValueCheck} {property : NullValueProperty}
    {inner : Assignment} {slot source value : Value} {heap between : Heap}
    {held contents : Contents} (hsim : simulator.Orderly) (hheap : heap.Keyed)
    (hslot : heap.contents? slot = some held) (hsource : source ≠ .null)
    (hvalue : Returns (simulator.evaluate source inner) heap value between)
    (hkind : slot.sameKind value = true) (hcontents : between.contents? value = some contents) :
    (∃ heap', Returns (simulator.write slot source (.merge guard check property inner)) heap slot
        heap' ∧
      heap'.contents? slot = some (if value = slot then contents.emptied else contents)) ∧
    (simulator.MutatesNothing →
      ∀ before, heap.contents? value = some before → contents = before) := by
  have hnull : slot ≠ .null := by
    rintro rfl
    cases hslot
  have hevolves := (evaluate_orderly hsim source inner).returns hvalue
  obtain ⟨kept, hkept⟩ := Option.isSome_iff_exists.1
    (hevolves.keeps slot (Option.isSome_iff_exists.2 ⟨held, hslot⟩))
  constructor
  · obtain ⟨heap', hrefill, hfilled⟩ := returns_refill_contents hkind hkept hcontents
      (Heap.keyed_contents (hevolves.keyed hheap) hcontents)
    refine ⟨heap', ?_, hfilled⟩
    rw [write, merge_refill guard check property inner hnull hsource]
    exact returns_bind.2 ⟨value, between, hvalue, hrefill⟩
  · intro hmutates before hbefore
    have hsame := (evaluate_touches_none hmutates source inner).returns hvalue List.not_mem_nil
      hbefore
    exact Option.some.inj (hcontents.symm.trans hsame)

end Simulator

/-! ## Circulars and their readers -/

namespace Circulars

def simulator : Simulator := { table := {} }

theorem simulator_orderly : simulator.Orderly := by
  intro name behavior argument hb
  cases hb

theorem simulator_mutatesNothing : simulator.MutatesNothing := by
  intro name behavior argument hb
  cases hb

/-- The readers of an old circular and those of a new one, and what they wrote in the margin. -/
def heap : Heap where
  lists := [[.text "ann"], [.text "bob", .text "ann"]]
  maps := [[("ann", .text "seen")], [("bob", .text "late"), ("ann", .text "noted")]]

theorem heap_keyed : heap.Keyed := by
  unfold Heap.Keyed
  decide

/-- The source, taken as it is and merged into the slot. -/
def assignment : Assignment :=
  .merge { target := .named Platform.map } .onImplicitConversion .setToNull
    (.direct (.ofParameter "readers" (.named Platform.map)) .unchecked)

def notes : Contents := .entries [("bob", .text "late"), ("ann", .text "noted")]

/-- The notes of the old circular become those that the new one had, in their order. -/
theorem write_merge_refills_notes : simulator.Orderly ∧ heap.Keyed ∧
    heap.contents? (.map 1) = some notes ∧
    (∃ heap', Returns (simulator.write (.map 0) (.map 1) assignment) heap (.map 0) heap' ∧
      heap'.contents? (.map 0) = some notes) ∧
    (simulator.MutatesNothing → ∀ before, heap.contents? (.map 1) = some before →
      notes = before) := by
  have hslot : heap.contents? (.map 0) = some (.entries [("ann", .text "seen")]) := rfl
  have hvalue : Returns (simulator.evaluate (.map 1)
      (.direct (.ofParameter "readers" (.named Platform.map)) .unchecked)) heap (.map 1) heap := rfl
  have hnotes : heap.contents? (.map 1) = some notes := rfl
  exact ⟨simulator_orderly, heap_keyed, hnotes, Simulator.write_merge_refills simulator_orderly
    heap_keyed hslot (by decide) hvalue rfl hnotes⟩

/-- A list that is merged into itself loses all that it held. -/
theorem not_always_refilled : ¬∀ (simulator : Simulator) (guard : Guard) (check : NullValueCheck)
    (property : NullValueProperty) (inner : Assignment) (slot source value : Value)
    (heap between : Heap) (held contents : Contents), simulator.Orderly →
    simulator.MutatesNothing → heap.Keyed → heap.contents? slot = some held → source ≠ .null →
    Returns (simulator.evaluate source inner) heap value between →
    slot.sameKind value = true → heap.contents? value = some contents →
    ∃ heap', Returns (simulator.write slot source (.merge guard check property inner)) heap slot
        heap' ∧
      heap'.contents? slot = some contents := by
  intro hall
  obtain ⟨heap', hrun, hfilled⟩ := hall simulator { target := .named Platform.list }
    .onImplicitConversion .setToNull
    (.direct (.ofParameter "readers" (.named Platform.list)) .unchecked) (.list 1) (.list 1)
    (.list 1) heap heap _ _ simulator_orderly simulator_mutatesNothing heap_keyed rfl (by decide)
    rfl rfl rfl
  have hempty : Returns (simulator.write (.list 1) (.list 1) (.merge
      { target := .named Platform.list } .onImplicitConversion .setToNull
      (.direct (.ofParameter "readers" (.named Platform.list)) .unchecked))) heap (.list 1)
      { heap with lists := [[.text "ann"], []] } := rfl
  cases hrun.symm.trans hempty
  cases hfilled

end Circulars

end BeanMapper.Simulation
