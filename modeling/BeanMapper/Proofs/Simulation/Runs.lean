import BeanMapper.Simulation.Evaluation

/-!
# Runs and their outcomes

`Returns` says that a run from a heap succeeds with a value and leaves a heap, `Fails` that it fails
and leaves one. Each step has one lemma that says all that it can return, so that a run is taken
apart step by step (`returns_bind`, `fails_bind`) without opening the monad. The runs on the members
of a list are taken apart into one after the other (`ReturnsEach`, `returns_mapM`).
-/

namespace BeanMapper.Simulation

namespace Run

variable {α β : Type} {heap heap' : Heap}

/-- The run from the first heap succeeds with the value and leaves the second heap. -/
def Returns (run : Run α) (heap : Heap) (value : α) (heap' : Heap) : Prop :=
  run.run.run heap = (.ok value, heap')

/-- The run from the first heap fails with an error and leaves the second heap. -/
def Fails (run : Run α) (heap : Heap) (e : Failure) (heap' : Heap) : Prop :=
  run.run.run heap = (.error e, heap')

/-- A run has one outcome. -/
theorem Returns.unique {run : Run α} {a b : α} {between : Heap} (h : Returns run heap a between)
    (h' : Returns run heap b heap') : a = b ∧ between = heap' := by
  cases h.symm.trans h'
  exact ⟨rfl, rfl⟩

/-- A second run goes on where a first one has succeeded. -/
theorem run_bind (run : Run α) (next : α → Run β) (heap : Heap) :
    (run >>= next).run.run heap =
      match run.run.run heap with
      | (.ok a, between) => (next a).run.run between
      | (.error e, between) => (.error e, between) := by
  change (ExceptT.bind run next).run.run heap = _
  simp only [ExceptT.bind, ExceptT.run, ExceptT.mk, bind, StateT.bind, StateT.run]
  rcases run heap with ⟨_ | a, between⟩ <;> rfl

@[simp]
theorem returns_pure {a b : α} : Returns (pure a) heap b heap' ↔ b = a ∧ heap' = heap := by
  constructor
  · intro h; cases h; exact ⟨rfl, rfl⟩
  · rintro ⟨rfl, rfl⟩; rfl

@[simp]
theorem returns_throw {e : Failure} {a : α} : ¬Returns (throw e) heap a heap' := by
  intro h; cases h

/-- What a sequence of two runs returns, the second returns where the first has left the heap. -/
theorem returns_bind {run : Run α} {next : α → Run β} {b : β} :
    Returns (run >>= next) heap b heap' ↔
      ∃ a between, Returns run heap a between ∧ Returns (next a) between b heap' := by
  unfold Returns
  rw [run_bind]
  rcases run.run.run heap with ⟨_ | a, between⟩
  · constructor
    · intro h; cases h
    · rintro ⟨a, between, h, -⟩; cases h
  · constructor
    · intro h; exact ⟨a, between, rfl, h⟩
    · rintro ⟨a, between, h, h'⟩; cases h; exact h'

/-- A sequence of two runs fails in the first or, if that succeeds, in the second. -/
theorem fails_bind {run : Run α} {next : α → Run β} {e : Failure} :
    Fails (run >>= next) heap e heap' ↔ Fails run heap e heap' ∨
      ∃ a between, Returns run heap a between ∧ Fails (next a) between e heap' := by
  unfold Fails Returns
  rw [run_bind]
  rcases run.run.run heap with ⟨e' | a, between⟩
  · constructor
    · intro h; cases h; exact Or.inl rfl
    · rintro (h | ⟨a, between, h, -⟩) <;> cases h; rfl
  · constructor
    · intro h; exact Or.inr ⟨a, between, rfl, h⟩
    · rintro (h | ⟨a, between, h, h'⟩)
      · cases h
      · cases h; exact h'

/-- Where a first run succeeds, a sequence goes as the second. -/
theorem fails_bind_of_returns {run : Run α} {next : α → Run β} {a : α} {between : Heap}
    {e : Failure} (h : Returns run heap a between) :
    Fails (run >>= next) heap e heap' ↔ Fails (next a) between e heap' := by
  unfold Fails
  rw [run_bind, h]

@[simp]
theorem not_fails_pure {a : α} {e : Failure} : ¬Fails (pure a) heap e heap' := by
  intro h; cases h

@[simp]
theorem fails_throw {e e' : Failure} :
    Fails (throw e : Run α) heap e' heap' ↔ e' = e ∧ heap' = heap := by
  constructor
  · intro h; cases h; exact ⟨rfl, rfl⟩
  · rintro ⟨rfl, rfl⟩; rfl

@[simp]
theorem returns_view {f : Heap → α} {a : α} :
    Returns (view f) heap a heap' ↔ a = f heap ∧ heap' = heap := by
  constructor
  · intro h; cases h; exact ⟨rfl, rfl⟩
  · rintro ⟨rfl, rfl⟩; rfl

@[simp]
theorem returns_newList {items : List Value} {value : Value} :
    Returns (newList items) heap value heap' ↔
      value = .list heap.lists.length ∧ heap' = (heap.newList items).2 := by
  constructor
  · intro h; cases h; exact ⟨rfl, rfl⟩
  · rintro ⟨rfl, rfl⟩; rfl

@[simp]
theorem returns_newMap {entries : Entries} {value : Value} :
    Returns (newMap entries) heap value heap' ↔
      value = .map heap.maps.length ∧ heap' = (heap.newMap entries).2 := by
  constructor
  · intro h; cases h; exact ⟨rfl, rfl⟩
  · rintro ⟨rfl, rfl⟩; rfl

/-- Two runs that go on alike from all that a first one can return are the same. -/
theorem bind_congr_returns {run : Run α} {next other : α → Run β}
    (h : ∀ heap a between, Returns run heap a between → next a = other a) :
    run >>= next = run >>= other := by
  change ExceptT.bind run next = ExceptT.bind run other
  funext heap
  have h := h heap
  unfold Returns at h
  simp only [ExceptT.run, StateT.run] at h
  simp only [ExceptT.bind, ExceptT.mk, bind, StateT.bind]
  rcases hr : run heap with ⟨_ | a, between⟩
  · rfl
  · simp only [ExceptT.bindCont, h a between hr]

/-! ### Runs in a row -/

/-- The runs on the members of a list succeed with the members of another, each from where the one
before it has left the heap. -/
inductive ReturnsEach (f : α → Run β) : List α → Heap → List β → Heap → Prop
  | nil {heap : Heap} : ReturnsEach f [] heap [] heap
  | cons {a : α} {as : List α} {b : β} {bs : List β} {heap between heap' : Heap}
      (first : Returns (f a) heap b between) (rest : ReturnsEach f as between bs heap') :
      ReturnsEach f (a :: as) heap (b :: bs) heap'

theorem returns_mapM {f : α → Run β} {as : List α} {bs : List β} :
    Returns (as.mapM f) heap bs heap' ↔ ReturnsEach f as heap bs heap' := by
  -- each member starts from the heap that those before it have left
  induction as generalizing heap bs with
  | nil =>
    rw [List.mapM_nil, returns_pure]
    constructor
    · rintro ⟨rfl, rfl⟩
      exact .nil
    · intro h
      cases h
      exact ⟨rfl, rfl⟩
  | cons a as ih =>
    rw [List.mapM_cons, returns_bind]
    constructor
    · rintro ⟨b, between, hfirst, hrest⟩
      obtain ⟨bs, after, hrest, hlist⟩ := returns_bind.1 hrest
      obtain ⟨rfl, rfl⟩ := returns_pure.1 hlist
      exact .cons hfirst (ih.1 hrest)
    · intro h
      cases h with
      | @cons _ _ b bs _ between _ hfirst hrest =>
        exact ⟨b, between, hfirst,
          returns_bind.2 ⟨bs, heap', ih.2 hrest, returns_pure.2 ⟨rfl, rfl⟩⟩⟩

end Run

end BeanMapper.Simulation
