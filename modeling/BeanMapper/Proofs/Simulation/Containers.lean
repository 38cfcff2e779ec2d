import BeanMapper.Distinct
import BeanMapper.Proofs.Simulation.Refilling

/-!
# What container methods return

A container method evaluates the elements or entries of its source one after the other, each where
the one before it has left the heap (`Run.ReturnsEach`), and no list or map changes meanwhile. What
comes out is put into a container of its own (`Step.Maps`). An update then empties its target and
adds these contents to it, so it makes no difference whether the target is the source itself or is
in it. `Step.container_method_maps` says what a container method returns and what is in it.
-/

namespace BeanMapper.Simulation

open Run

/-! ## Entries gathered in a map -/

namespace Entries

variable {entries : Entries} {pairs : List (String × Value)} {key : String} {value : Value}

theorem keys_put : (put key value entries).keys = addLast entries.keys key := by
  induction entries with
  | nil => rfl
  | cons entry rest ih =>
    obtain ⟨name, old⟩ := entry
    unfold keys at ih ⊢
    by_cases h : name = key
    · simp [put, addLast, h]
    · rw [put, if_neg h, List.map_cons, ih]
      simp only [addLast, List.map_cons, List.mem_cons, Ne.symm h, false_or]
      split <;> rfl

/-- The keys in order of first occurrence. -/
theorem keys_putAll : (entries.putAll pairs).keys = union entries.keys (pairs.map Prod.fst) := by
  induction pairs generalizing entries with
  | nil => rfl
  | cons pair rest ih => exact ih.trans (by rw [keys_put]; rfl)

/-- The last value that is put in counts. -/
theorem lookup_putAll :
    (entries.putAll pairs).lookup key = (pairs.reverse.lookup key).or (entries.lookup key) := by
  induction pairs generalizing entries with
  | nil => rfl
  | cons pair rest ih =>
    obtain ⟨name, value⟩ := pair
    refine ih.trans ?_
    rw [lookup_put, List.reverse_cons, List.lookup_append, lookup_cons]
    cases rest.reverse.lookup key <;> split <;> rfl

/-- The entries of a list in a map: the keys in order of first occurrence, each with the value of
its last entry. -/
structure Gathers (entries : Entries) (pairs : List (String × Value)) : Prop where
  keys : entries.keys = distinct (pairs.map Prod.fst)
  lookup : ∀ key, entries.lookup key = pairs.reverse.lookup key

theorem lookup_of_not_mem (h : key ∉ entries.keys) : entries.lookup key = none := by
  refine List.lookup_eq_none_iff.2 fun entry hentry => bne_iff_ne.2 ?_
  rintro rfl
  exact h (List.mem_map_of_mem hentry)

/-- A map is known by its keys and their values. -/
theorem eq_of_keys_eq {others : Entries} (hnodup : entries.keys.Nodup)
    (hkeys : entries.keys = others.keys) (h : ∀ key, entries.lookup key = others.lookup key) :
    entries = others := by
  induction entries generalizing others with
  | nil => exact (List.map_eq_nil_iff.1 hkeys.symm).symm
  | cons entry rest ih =>
    obtain ⟨name, value⟩ := entry
    cases others with
    | nil => cases hkeys
    | cons other others =>
      obtain ⟨name', value'⟩ := other
      obtain ⟨rfl, htail⟩ := List.cons.inj hkeys
      obtain ⟨hhead, hrest⟩ := List.nodup_cons.1 hnodup
      have hvalue := h name
      rw [lookup_cons, lookup_cons, if_pos rfl, if_pos rfl] at hvalue
      cases hvalue
      refine congrArg _ (ih hrest htail fun key => ?_)
      -- the first key hides what the others say of it, but they say nothing
      by_cases hkey : key = name
      · have hother : name ∉ keys others := by rwa [keys, ← htail]
        rw [hkey, lookup_of_not_mem hhead, lookup_of_not_mem hother]
      · have hlater := h key
        rwa [lookup_cons, lookup_cons, if_neg hkey, if_neg hkey] at hlater

theorem Gathers.unique {others : Entries} (h : entries.Gathers pairs) (h' : others.Gathers pairs) :
    entries = others :=
  eq_of_keys_eq (h.keys ▸ nodup_distinct _) (h.keys.trans h'.keys.symm)
    fun key => (h.lookup key).trans (h'.lookup key).symm

theorem gathers_putAll (pairs : List (String × Value)) : (putAll [] pairs).Gathers pairs :=
  ⟨keys_putAll, fun _ => lookup_putAll.trans Option.or_none⟩

end Entries

/-! ## Contents delivered in a container -/

namespace Heap

variable {heap : Heap} {address : Nat}

theorem items_of_contents? {items : List Value}
    (h : heap.contents? (.list address) = some (.items items)) : heap.items address = items := by
  obtain ⟨_, hfound, heq⟩ := Option.map_eq_some_iff.1 h
  cases heq
  rw [Heap.items, hfound, Option.getD_some]

theorem entries_of_contents? {entries : Entries}
    (h : heap.contents? (.map address) = some (.entries entries)) :
    heap.entries address = entries := by
  obtain ⟨_, hfound, heq⟩ := Option.map_eq_some_iff.1 h
  cases heq
  rw [Heap.entries, hfound, Option.getD_some]

end Heap

/-- A container of its own with the given contents. -/
def Run.create : Contents → Run Value
  | .items items => newList items
  | .entries entries => newMap entries

/-- The second heap has the contents in a container: in the target if there is one, and else in one
that the first heap does not have. All other containers are as they are in the first heap. -/
structure Heap.Delivers (heap : Heap) (target : Option Value) (contents : Contents) (result : Value)
    (heap' : Heap) : Prop where
  holds : heap'.contents? result = some contents
  inPlace : ∀ place, target = some place → result = place
  isNew : target = none → heap.contents? result = none
  frame : ∀ v held, v ≠ result → heap.contents? v = some held → heap'.contents? v = some held

/-- There is a container in the heap for contents of this kind, if there is to be one at all. -/
def Heap.HasPlace (heap : Heap) (target : Option Value) (contents : Contents) : Prop :=
  ∀ place, target = some place → ∃ held, heap.contents? place = some held ∧
    held.emptied = contents.emptied

namespace Run

variable {heap heap' : Heap} {target : Option Value} {contents : Contents} {value : Value}

theorem TouchesOnly.create (contents : Contents) : TouchesOnly [] (create contents) := by
  cases contents with
  | items items => exact TouchesOnly.newList items
  | entries entries => exact TouchesOnly.newMap entries

theorem delivers_create (h : Returns (create contents) heap value heap') :
    heap.Delivers none contents value heap' where
  holds := by
    cases contents with
    | items items => obtain ⟨rfl, rfl⟩ := returns_newList.1 h; simp [Heap.contents?, Heap.newList]
    | entries entries => obtain ⟨rfl, rfl⟩ := returns_newMap.1 h; simp [Heap.contents?, Heap.newMap]
  inPlace _ h := by cases h
  isNew _ := by
    cases contents with
    | items items => rw [(returns_newList.1 h).1]; simp [Heap.contents?]
    | entries entries => rw [(returns_newMap.1 h).1]; simp [Heap.contents?]
  frame v held _ hv := (TouchesOnly.create contents).returns h List.not_mem_nil hv

theorem exists_returns_create (contents : Contents) (heap : Heap) :
    ∃ value heap', Returns (create contents) heap value heap' := by
  cases contents <;> exact ⟨_, _, rfl⟩

/-- Containers whose contents are of one kind are of one kind. -/
theorem sameKind_of_emptied_eq {a b : Value} {held : Contents} (ha : heap.contents? a = some held)
    (hb : heap'.contents? b = some contents) (h : held.emptied = contents.emptied) :
    a.sameKind b = true := by
  cases a with
  | list =>
    obtain ⟨_, -, rfl⟩ := Option.map_eq_some_iff.1 ha
    cases b with
    | list => rfl
    | map => obtain ⟨_, -, rfl⟩ := Option.map_eq_some_iff.1 hb; cases h
    | _ => cases hb
  | map =>
    obtain ⟨_, -, rfl⟩ := Option.map_eq_some_iff.1 ha
    cases b with
    | map => rfl
    | list => obtain ⟨_, -, rfl⟩ := Option.map_eq_some_iff.1 hb; cases h
    | _ => cases hb
  | _ => cases ha

/-- New contents are filled into the target if there is one. -/
theorem delivers_fill (htarget : heap.HasPlace target contents) (hkeyed : contents.Keyed) :
    ∃ result heap', Returns (create contents >>= Simulator.fill target) heap result heap' ∧
      heap.Delivers target contents result heap' := by
  obtain ⟨fresh, created, hcreate⟩ := exists_returns_create contents heap
  have hfresh := delivers_create hcreate
  cases target with
  | none => exact ⟨fresh, created, returns_bind.2 ⟨fresh, created, hcreate, rfl⟩, hfresh⟩
  | some place =>
    obtain ⟨held, hheld, hempty⟩ := htarget place rfl
    -- the contents come from a new container, so emptying the target does not empty them
    have hother : place ≠ fresh := by
      rintro rfl
      rw [hfresh.isNew rfl] at hheld
      cases hheld
    have hplace := hfresh.frame place held hother hheld
    obtain ⟨heap', hrefill, hholds⟩ := returns_refill_contents
      (sameKind_of_emptied_eq hplace hfresh.holds hempty) hplace hfresh.holds hkeyed
    rw [if_neg (Ne.symm hother)] at hholds
    refine ⟨place, heap', returns_bind.2 ⟨fresh, created, hcreate, hrefill⟩, hholds,
      fun _ h => Option.some.inj h, nofun, fun v held hv hbefore => ?_⟩
    have hnew : v ≠ fresh := by
      rintro rfl
      rw [hfresh.isNew rfl] at hbefore
      cases hbefore
    exact (TouchesOnly.refill place fresh).returns hrefill (by simpa using hv)
      (hfresh.frame v held hnew hbefore)

/-- Where a missing source counts as an empty one, the target is emptied if there is one. -/
theorem delivers_missing (htarget : heap.HasPlace target contents)
    (hcontents : contents.emptied = contents) :
    ∃ result heap', Returns (Simulator.missing .returnDefault target (create contents)) heap result
      heap' ∧ heap.Delivers target contents result heap' := by
  cases target with
  | none =>
    obtain ⟨fresh, created, hcreate⟩ := exists_returns_create contents heap
    exact ⟨fresh, created, hcreate, delivers_create hcreate⟩
  | some place =>
    obtain ⟨held, hheld, hempty⟩ := htarget place rfl
    obtain ⟨heap', hclear⟩ := exists_returns_clear hheld
    refine ⟨place, heap', returns_bind.2 ⟨(), heap', hclear, returns_pure.2 ⟨rfl, rfl⟩⟩, ?_,
      fun _ h => Option.some.inj h, nofun, fun v held hv hbefore => ?_⟩
    · rw [contents?_clear hheld hclear, hempty, hcontents]
    · exact (TouchesOnly.clear place).returns hclear (by simpa using hv) hbefore

end Run

/-! ## Container methods -/

namespace Simulator

variable {simulator : Simulator} {method : GeneratedMethod} {existing : Option Value}
  {element key value : Assignment} {heap heap' : Heap} {result : Value} {address : Nat}

/-- The instance that a method fills: only an update has one. -/
def target? (method : GeneratedMethod) (existing : Option Value) : Option Value :=
  if method.isUpdate then existing else none

theorem updated_eq (h : method.isUpdate = true → existing ≠ none) :
    updated method.isUpdate existing = pure (target? method existing) := by
  unfold updated target?
  split
  · rename_i hupdate
    cases existing with
    | none => exact absurd rfl (h hupdate)
    | some value => rfl
  · rfl

def mapEntry (simulator : Simulator) (key value : Assignment) (entry : String × Value) :
    Run (String × Value) := do
  let name ← keyOf (← simulator.evaluate (.text entry.1) key)
  let item ← simulator.evaluate entry.2 value
  return (name, item)

/-- The entries are mapped one after the other, and then put in. -/
theorem mapEntries_eq (mapped entries : Entries) :
    simulator.mapEntries key value mapped entries =
      entries.mapM (simulator.mapEntry key value) >>= fun pairs => pure (mapped.putAll pairs) := by
  induction entries generalizing mapped with
  | nil => rfl
  | cons entry rest ih =>
    simp only [mapEntries, ih, List.mapM_cons, mapEntry, bind_assoc, pure_bind]
    rfl

theorem mapEntry_touches_none (hsim : simulator.MutatesNothing) (entry : String × Value) :
    TouchesOnly [] (simulator.mapEntry key value entry) :=
  (evaluate_touches_none hsim _ key).bind fun found => (keyOf_touches_none found).bind fun name =>
    (evaluate_touches_none hsim entry.2 value).bind fun item => TouchesOnly.pure (name, item)

theorem runIterable_list (h : method.isUpdate = true → existing ≠ none) :
    simulator.runIterable method element (.list address) existing =
      view (fun heap => heap.items address) >>= fun items =>
        items.mapM (fun item => simulator.evaluate item element) >>= fun values =>
          create (.items values) >>= fill (target? method existing) := by
  rw [runIterable, updated_eq h, pure_bind]
  rfl

theorem not_returns_runIterable_map (h : method.isUpdate = true → existing ≠ none) :
    ¬Returns (simulator.runIterable method element (.map address) existing) heap result heap' := by
  rw [runIterable, updated_eq h, pure_bind]
  exact returns_throw

theorem runIterable_null (h : method.isUpdate = true → existing ≠ none) :
    simulator.runIterable method element .null existing =
      missing method.nullValueMapping (target? method existing) (create (.items [])) := by
  rw [runIterable, updated_eq h, pure_bind]
  rfl

theorem runMap_map (h : method.isUpdate = true → existing ≠ none) :
    simulator.runMap method key value (.map address) existing =
      view (fun heap => heap.entries address) >>= fun entries =>
        entries.mapM (simulator.mapEntry key value) >>= fun pairs =>
          create (.entries (Entries.putAll [] pairs)) >>= fill (target? method existing) := by
  rw [runMap, updated_eq h, pure_bind]
  simp only [mapEntries_eq, bind_assoc, pure_bind]
  rfl

theorem not_returns_runMap_list (h : method.isUpdate = true → existing ≠ none) :
    ¬Returns (simulator.runMap method key value (.list address) existing) heap result heap' := by
  rw [runMap, updated_eq h, pure_bind]
  exact returns_throw

theorem runMap_null (h : method.isUpdate = true → existing ≠ none) :
    simulator.runMap method key value .null existing =
      missing method.nullValueMapping (target? method existing) (create (.entries [])) := by
  rw [runMap, updated_eq h, pure_bind]
  rfl

end Simulator

namespace Step

variable {simulator : Simulator} {step : Step} {method : GeneratedMethod}
  {empty contents : Contents} {heap between heap' : Heap} {result : Value}

def source : Step → Value
  | property _ _ source => source
  | iterable _ _ source _ => source
  | map _ _ _ source _ => source

/-- The container method that the step runs, and what an empty container of its kind holds. -/
def method? : Step → Option (GeneratedMethod × Contents)
  | property _ _ _ => none
  | iterable method _ _ _ => some (method, .items [])
  | map method _ _ _ _ => some (method, .entries [])

theorem emptied_of_method? (h : step.method? = some (method, empty)) : empty.emptied = empty := by
  cases step <;> cases h <;> rfl

/-- The step runs a container method. If that is an update, it is given a container of the heap of
the kind that the method maps to. -/
structure IsReady (step : Step) (heap : Heap) (method : GeneratedMethod) (empty : Contents) :
    Prop where
  method? : step.method? = some (method, empty)
  existing : method.isUpdate = true → ∃ place held, step.held = some place ∧
    heap.contents? place = some held ∧ held.emptied = empty

/-- The contents that a container method maps those of its source to, and the heap that is left
where all of them have been evaluated, one after the other. -/
inductive Maps (simulator : Simulator) (heap : Heap) : Step → Contents → Heap → Prop
  | items {method : GeneratedMethod} {element : Assignment} {address : Nat}
      {existing : Option Value} {items values : List Value} {between : Heap}
      (source : heap.contents? (.list address) = some (.items items))
      (each : ReturnsEach (fun item => simulator.evaluate item element) items heap values between) :
      Maps simulator heap (.iterable method element (.list address) existing) (.items values)
        between
  | entries {method : GeneratedMethod} {key value : Assignment} {address : Nat}
      {existing : Option Value} {entries mapped : Entries} {pairs : List (String × Value)}
      {between : Heap} (source : heap.contents? (.map address) = some (.entries entries))
      (each : ReturnsEach (simulator.mapEntry key value) entries heap pairs between)
      (gathers : mapped.Gathers pairs) :
      Maps simulator heap (.map method key value (.map address) existing) (.entries mapped) between

theorem Maps.emptied_eq (h : step.Maps simulator heap contents between)
    (hmethod : step.method? = some (method, empty)) : contents.emptied = empty := by
  cases h <;> cases hmethod <;> rfl

theorem Maps.keyed (h : step.Maps simulator heap contents between) : contents.Keyed := by
  cases h with
  | items => trivial
  | @entries _ _ _ _ _ _ mapped _ _ _ _ hgathers =>
    change mapped.keys.Nodup
    rw [hgathers.keys]
    exact nodup_distinct _

/-- Evaluation leaves all containers as they are. -/
theorem Maps.keeps (hsim : simulator.MutatesNothing) (h : step.Maps simulator heap contents between)
    {v : Value} {held : Contents} (hv : heap.contents? v = some held) :
    between.contents? v = some held := by
  cases h with
  | items _ each =>
    exact (TouchesOnly.mapM (fun item => Simulator.evaluate_touches_none hsim item _) _).returns
      (returns_mapM.2 each) List.not_mem_nil hv
  | entries _ each =>
    exact (TouchesOnly.mapM (Simulator.mapEntry_touches_none hsim) _).returns
      (returns_mapM.2 each) List.not_mem_nil hv

section Runs

variable {element key value : Assignment} {existing : Option Value} {address : Nat}

theorem returns_iterable_iff {items : List Value} (h : method.isUpdate = true → existing ≠ none)
    (hsource : heap.contents? (.list address) = some (.items items)) :
    Returns ((iterable method element (.list address) existing).run simulator) heap result heap' ↔
      ∃ contents between,
        (iterable method element (.list address) existing).Maps simulator heap contents between ∧
        Returns (create contents >>= Simulator.fill (Simulator.target? method existing)) between
          result heap' := by
  rw [run, Simulator.runIterable_list h, returns_bind]
  constructor
  · rintro ⟨_, _, hview, hrun⟩
    obtain ⟨rfl, rfl⟩ := returns_view.1 hview
    obtain ⟨values, between, heach, hrun⟩ := returns_bind.1 hrun
    rw [Heap.items_of_contents? hsource] at heach
    exact ⟨.items values, between, .items hsource (returns_mapM.1 heach), hrun⟩
  · rintro ⟨_, between, hmaps, hrun⟩
    cases hmaps with
    | @items _ _ _ _ found values _ hfound heach =>
      exact ⟨found, heap, returns_view.2 ⟨(Heap.items_of_contents? hfound).symm, rfl⟩,
        returns_bind.2 ⟨values, between, returns_mapM.2 heach, hrun⟩⟩

theorem returns_map_iff {entries : Entries} (h : method.isUpdate = true → existing ≠ none)
    (hsource : heap.contents? (.map address) = some (.entries entries)) :
    Returns ((map method key value (.map address) existing).run simulator) heap result heap' ↔
      ∃ contents between,
        (map method key value (.map address) existing).Maps simulator heap contents between ∧
        Returns (create contents >>= Simulator.fill (Simulator.target? method existing)) between
          result heap' := by
  rw [run, Simulator.runMap_map h, returns_bind]
  constructor
  · rintro ⟨_, _, hview, hrun⟩
    obtain ⟨rfl, rfl⟩ := returns_view.1 hview
    obtain ⟨pairs, between, heach, hrun⟩ := returns_bind.1 hrun
    rw [Heap.entries_of_contents? hsource] at heach
    exact ⟨_, between, .entries hsource (returns_mapM.1 heach) (Entries.gathers_putAll pairs), hrun⟩
  · rintro ⟨_, between, hmaps, hrun⟩
    cases hmaps with
    | @entries _ _ _ _ _ found _ pairs _ hfound heach hgathers =>
      rw [hgathers.unique (Entries.gathers_putAll pairs)] at hrun
      exact ⟨found, heap, returns_view.2 ⟨(Heap.entries_of_contents? hfound).symm, rfl⟩,
        returns_bind.2 ⟨pairs, between, returns_mapM.2 heach, hrun⟩⟩

end Runs

theorem IsReady.held_ne_none (hready : step.IsReady heap method empty)
    (hupdate : method.isUpdate = true) : step.held ≠ none := by
  obtain ⟨place, -, hheld, -⟩ := hready.existing hupdate
  simp [hheld]

/-- A container method on a container is evaluation of all that is in it, and then delivery. -/
theorem IsReady.returns_iff {held : Contents} (hready : step.IsReady heap method empty)
    (hsource : heap.contents? step.source = some held) :
    Returns (step.run simulator) heap result heap' ↔
      ∃ contents between, step.Maps simulator heap contents between ∧
        Returns (create contents >>= Simulator.fill (Simulator.target? method step.held)) between
          result heap' := by
  have hexisting := hready.held_ne_none
  have hmethod := hready.method?
  cases step with
  | property => cases hmethod
  | iterable _ element source existing =>
    cases hmethod
    cases source with
    | list address =>
      obtain ⟨items, hitems, -⟩ := Option.map_eq_some_iff.1 hsource
      exact returns_iterable_iff hexisting (congrArg (Option.map Contents.items) hitems)
    | map address =>
      rw [run]
      -- a map is no source of elements: the run fails, and nothing is mapped
      refine iff_of_false (Simulator.not_returns_runIterable_map hexisting) ?_
      rintro ⟨_, _, hmaps, -⟩
      cases hmaps
    | _ => cases hsource
  | map _ key value source existing =>
    cases hmethod
    cases source with
    | map address =>
      obtain ⟨entries, hentries, -⟩ := Option.map_eq_some_iff.1 hsource
      exact returns_map_iff hexisting (congrArg (Option.map Contents.entries) hentries)
    | list address =>
      rw [run]
      refine iff_of_false (Simulator.not_returns_runMap_list hexisting) ?_
      rintro ⟨_, _, hmaps, -⟩
      cases hmaps
    | _ => cases hsource

/-- A container method on null is decided by its strategy. -/
theorem IsReady.run_eq_missing (hready : step.IsReady heap method empty)
    (hsource : step.source = .null) :
    step.run simulator = Simulator.missing method.nullValueMapping
      (Simulator.target? method step.held) (create empty) := by
  have hexisting := hready.held_ne_none
  have hmethod := hready.method?
  cases step with
  | property => cases hmethod
  | iterable _ element source existing =>
    cases hmethod
    cases hsource
    rw [run]
    exact Simulator.runIterable_null hexisting
  | map _ key value source existing =>
    cases hmethod
    cases hsource
    rw [run]
    exact Simulator.runMap_null hexisting

/-- There is a place for contents of the kind that the method maps to. -/
theorem IsReady.hasPlace (hready : step.IsReady heap method empty) {later : Heap}
    (hkeeps : ∀ v held, heap.contents? v = some held → later.contents? v = some held)
    (hempty : contents.emptied = empty) :
    later.HasPlace (Simulator.target? method step.held) contents := by
  intro place hplace
  unfold Simulator.target? at hplace
  split at hplace
  · rename_i hupdate
    obtain ⟨_, held, hheld, hcontents, hkind⟩ := hready.existing hupdate
    cases hheld.symm.trans hplace
    exact ⟨held, hkeeps place held hcontents, hkind.trans hempty.symm⟩
  · cases hplace

/-- **What a container method returns.** Let no method mutate a container, and an update be given
one. On a list or map, the method succeeds if all elements, or all keys and values, can be evaluated
in order, and only then; meanwhile no container changes. Then an update returns its target, and any
other method a container that was not there before; this holds what has been evaluated, in order, a
map each key once with its last value, and all other containers are as they were. On null, a method
returns null and changes nothing, or delivers nothing in the same way. -/
theorem container_method_maps (hsim : simulator.MutatesNothing)
    (hready : step.IsReady heap method empty) :
    (∀ held, heap.contents? step.source = some held →
      (∀ result heap', Returns (step.run simulator) heap result heap' →
        ∃ contents between, step.Maps simulator heap contents between ∧
          (∀ v before, heap.contents? v = some before → between.contents? v = some before) ∧
          between.Delivers (Simulator.target? method step.held) contents result heap') ∧
      ∀ contents between, step.Maps simulator heap contents between →
        ∃ result heap', Returns (step.run simulator) heap result heap') ∧
    (step.source = .null →
      (method.nullValueMapping = .returnNull → Returns (step.run simulator) heap .null heap) ∧
      (method.nullValueMapping = .returnDefault →
        ∃ result heap', Returns (step.run simulator) heap result heap' ∧
          heap.Delivers (Simulator.target? method step.held) empty result heap')) := by
  have hdelivers {contents : Contents} {between : Heap}
      (hmaps : step.Maps simulator heap contents between) :
      ∃ result heap', Returns (create contents >>=
          Simulator.fill (Simulator.target? method step.held)) between result heap' ∧
        between.Delivers (Simulator.target? method step.held) contents result heap' :=
    delivers_fill (hready.hasPlace (fun _ _ => hmaps.keeps hsim) (hmaps.emptied_eq hready.method?))
      hmaps.keyed
  refine ⟨fun held hsource => ⟨fun result heap' hrun => ?_, fun contents between hmaps => ?_⟩,
    fun hsource => ⟨fun hnull => ?_, fun hdefault => ?_⟩⟩
  · obtain ⟨contents, between, hmaps, hfill⟩ := (hready.returns_iff hsource).1 hrun
    obtain ⟨_, _, hfilled, hdelivered⟩ := hdelivers hmaps
    -- delivery has one outcome, so it is the one that the run has had
    obtain ⟨rfl, rfl⟩ := hfilled.unique hfill
    exact ⟨contents, between, hmaps, fun _ _ => hmaps.keeps hsim, hdelivered⟩
  · obtain ⟨result, heap', hfilled, -⟩ := hdelivers hmaps
    exact ⟨result, heap', (hready.returns_iff hsource).2 ⟨contents, between, hmaps, hfilled⟩⟩
  · rw [hready.run_eq_missing hsource, hnull]
    exact returns_pure.2 ⟨rfl, rfl⟩
  · have hempty := emptied_of_method? hready.method?
    rw [hready.run_eq_missing hsource, hdefault]
    exact delivers_missing (hready.hasPlace (fun _ _ h => h) hempty) hempty

end Step

/-! ## A ledger that is revised -/

namespace Ledger

def ty : Ty := .declared Platform.map [.string, .string]

def key : Assignment :=
  .convert { source := .string, target := .primitive .int, expression := Conversion.placeholder }
    (.direct (.ofParameter "key" .string) .unchecked)

def value : Assignment := .direct (.ofParameter "value" .string) .unchecked

def method : GeneratedMethod where
  name := "revise"
  parameters := [{ name := "ledger", ty }, { name := "revised", ty, role := .mappingTarget }]
  returnType := .void
  creation := .given
  before := []
  after := []
  nullValueMapping := .returnDefault
  body := .map { name := "ledger", ty } ⟨.string, .primitive .int, key⟩ ⟨.string, .string, value⟩

/-- A ledger, in which one number is written in two ways, and a list of names. -/
def heap : Heap where
  lists := [[.text "ann"]]
  maps := [[("7", .text "ann"), ("12", .text "bob"), ("07", .text "eve")]]

def step : Step := .map method key value (.map 0) (some (.map 0))

def simulator : Simulator := { table := {} }

theorem simulator_mutatesNothing : simulator.MutatesNothing := by
  intro name behavior argument hb
  cases hb

theorem step_ready : step.IsReady heap method (.entries []) where
  method? := rfl
  existing _ := ⟨.map 0, _, rfl, rfl, rfl⟩

def revised : Contents := .entries [("7", .text "eve"), ("12", .text "bob")]

/-- The ledger is revised although it is emptied on the way, and the list stays as it is. -/
theorem container_method_maps_ledger : simulator.MutatesNothing ∧
    step.IsReady heap method (.entries []) ∧
    ∃ between heap', Returns (step.run simulator) heap (.map 0) heap' ∧
      step.Maps simulator heap revised between ∧
      between.Delivers (some (.map 0)) revised (.map 0) heap' ∧
      heap'.contents? (.list 0) = some (.items [.text "ann"]) := by
  have hrun : Returns (step.run simulator) heap (.map 0)
    { heap with maps := [[("7", .text "eve"), ("12", .text "bob")],
        [("7", .text "eve"), ("12", .text "bob")]] } := rfl
  obtain ⟨contents, between, hmaps, hkeeps, hdelivers⟩ :=
    ((Step.container_method_maps simulator_mutatesNothing step_ready).1 _ rfl).1 _ _ hrun
  obtain rfl : contents = revised := Option.some.inj (hdelivers.holds.symm.trans rfl)
  exact ⟨simulator_mutatesNothing, step_ready, between, _, hrun, hmaps, hdelivers,
    hdelivers.frame (.list 0) _ (by decide) (hkeeps (.list 0) _ rfl)⟩

end Ledger

end BeanMapper.Simulation
