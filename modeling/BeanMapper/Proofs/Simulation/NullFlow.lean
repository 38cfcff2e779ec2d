import BeanMapper.Proofs.Assignment.Parts
import BeanMapper.Proofs.Simulation.Runs
import BeanMapper.Simulation.Writing

/-!
# Where null goes

Null stays null on its way through an assignment if the methods called map null to null
(`evaluate_null`), and no step makes null of anything else if the methods never return it
(`evaluate_ne_null`). `IsDefault` says what the default of a type is; it is never null.
-/

namespace BeanMapper.Simulation

open Run

variable {table : ClassTable} {heap heap' : Heap} {value : Value}

/-! ## Values -/

theorem literal_ne_null (reference : String) : literal reference ≠ .null := by
  unfold literal
  dsimp only
  split
  · simp
  · split <;> simp

theorem returns_convert_null {target : Ty} (h : Returns (convert target .null) heap value heap') :
    value = .null := by
  exact (returns_pure.1 h).1

theorem returns_convert_ne_null {target : Ty} {argument : Value} (ha : argument ≠ .null)
    (h : Returns (convert target argument) heap value heap') : value ≠ .null := by
  cases argument with
  | null => exact absurd rfl ha
  | text text =>
    simp only [convert] at h
    split at h
    · split at h
      · rw [(returns_pure.1 h).1]; simp
      · exact absurd h returns_throw
    · rw [(returns_pure.1 h).1]; simp
  | integer number =>
    simp only [convert] at h
    rw [(returns_pure.1 h).1]
    split <;> simp
  | list address => rw [(returns_pure.1 h).1]; simp
  | map address => rw [(returns_pure.1 h).1]; simp

theorem returns_copy_null (h : Returns (copy .null) heap value heap') : value = .null :=
  (returns_pure.1 h).1

theorem returns_copy_ne_null {original : Value} (ho : original ≠ .null)
    (h : Returns (copy original) heap value heap') : value ≠ .null := by
  cases original with
  | null => exact absurd rfl ho
  | text text => rw [(returns_pure.1 h).1]; simp
  | integer number => rw [(returns_pure.1 h).1]; simp
  | list address =>
    obtain ⟨items, between, -, hnew⟩ := returns_bind.1 h
    rw [(returns_newList.1 hnew).1]; simp
  | map address =>
    obtain ⟨entries, between, -, hnew⟩ := returns_bind.1 h
    rw [(returns_newMap.1 hnew).1]; simp

/-! ## Defaults -/

/-- Types whose default is zero: the primitive types and what they are boxed in, booleans apart. -/
def IsNumeric (ty : Ty) : Prop := ∃ p, ty.primitive?.or ty.unboxed? = some p ∧ p ≠ .boolean

/-- The value is a new container of the type without contents, a map for a map type and a list for
any other type that can be iterated over. -/
def IsNewEmpty (table : ClassTable) (ty : Ty) (heap : Heap) (value : Value) (heap' : Heap) : Prop :=
  (table.isMap ty = true ∧ value = .map heap.maps.length ∧ heap' = (heap.newMap []).2) ∨
    (table.isMap ty = false ∧ table.isIterable ty = true ∧
      value = .list heap.lists.length ∧ heap' = (heap.newList []).2)

/-- The value is the default of the type: the empty text for texts, zero for numbers, and an empty
container for containers. No other type has a default. -/
def IsDefault (table : ClassTable) (ty : Ty) (heap : Heap) (value : Value) (heap' : Heap) : Prop :=
  (ty.isString = true ∧ value = .text "" ∧ heap' = heap) ∨
    (ty.isString = false ∧ IsNumeric ty ∧ value = .integer 0 ∧ heap' = heap) ∨
    (ty.isString = false ∧ ¬IsNumeric ty ∧ IsNewEmpty table ty heap value heap')

theorem returns_emptyContainer {ty : Ty} :
    Returns (emptyContainer table ty) heap value heap' ↔ IsNewEmpty table ty heap value heap' := by
  unfold emptyContainer IsNewEmpty
  cases table.isMap ty with
  | true => simp [returns_newMap]
  | false =>
    cases table.isIterable ty with
    | true => simp [returns_newList]
    | false => simp

theorem defaultValue_text {ty : Ty} (hs : ty.isString = true) :
    defaultValue table ty = pure (.text "") := by
  rw [defaultValue, if_pos hs]

theorem defaultValue_number {ty : Ty} (hs : ty.isString = false) (hnumeric : IsNumeric ty) :
    defaultValue table ty = pure (.integer 0) := by
  obtain ⟨p, hp, hne⟩ := hnumeric
  simp [defaultValue, hs, hp, hne]

theorem defaultValue_container {ty : Ty} (hs : ty.isString = false) (hnumeric : ¬IsNumeric ty) :
    defaultValue table ty = emptyContainer table ty := by
  unfold defaultValue
  rw [if_neg (by simp [hs])]
  split
  · rename_i p hp
    exact if_pos (Classical.byContradiction fun hne => hnumeric ⟨p, hp, hne⟩)
  · rfl

theorem returns_defaultValue {ty : Ty} :
    Returns (defaultValue table ty) heap value heap' ↔ IsDefault table ty heap value heap' := by
  unfold IsDefault
  cases hs : ty.isString with
  | true => simp [defaultValue_text hs, returns_pure]
  | false =>
    by_cases hnumeric : IsNumeric ty
    · simp [defaultValue_number hs hnumeric, hnumeric, returns_pure]
    · simp [defaultValue_container hs hnumeric, hnumeric, returns_emptyContainer]

theorem IsDefault.ne_null {ty : Ty} (h : IsDefault table ty heap value heap') :
    value ≠ .null := by
  rcases h with ⟨-, rfl, -⟩ | ⟨-, -, rfl, -⟩ | ⟨-, -, ⟨-, rfl, -⟩ | ⟨-, -, rfl, -⟩⟩ <;> simp

/-! ## Assignments -/

namespace Simulator

variable {simulator : Simulator} {source : Value}

/-- Whatever a method returns for null is null. -/
def MapsNullToNull (simulator : Simulator) : Prop :=
  ∀ name behavior heap value heap', simulator.behavior? name = some behavior →
    Returns (behavior .null) heap value heap' → value = .null

def NeverReturnsNull (simulator : Simulator) : Prop :=
  ∀ name behavior argument heap value heap', simulator.behavior? name = some behavior →
    Returns (behavior argument) heap value heap' → value ≠ .null

theorem returns_invoke {name : String} {argument : Run Value}
    (h : Returns (simulator.invoke name argument) heap value heap') :
    ∃ behavior, simulator.behavior? name = some behavior ∧ ∃ v between,
      Returns argument heap v between ∧ Returns (behavior v) between value heap' := by
  unfold invoke at h
  split at h
  · exact absurd h returns_throw
  · rename_i behavior hb
    exact ⟨behavior, hb, returns_bind.1 h⟩

theorem evaluate_null (hsim : simulator.MapsNullToNull) {a : Assignment}
    (hc : a.isConstant = false) (h : Returns (simulator.evaluate .null a) heap value heap') :
    value = .null := by
  induction a using Assignment.byParts generalizing value heap' with
  | direct v presence =>
    have hv : v.isConstant = false := hc
    rw [evaluate, hv] at h
    exact (returns_pure.1 h).1
  | convert c argument ih =>
    rw [evaluate] at h
    obtain ⟨v, between, hargument, hconvert⟩ := returns_bind.1 h
    rw [ih hc hargument] at hconvert
    exact returns_convert_null hconvert
  | refer c =>
    rw [evaluate, evaluateCall] at h
    obtain ⟨behavior, hb, v, between, hargument, hbehavior⟩ := returns_invoke h
    rw [(returns_pure.1 hargument).1] at hbehavior
    exact hsim _ _ _ _ _ hb hbehavior
  | apply c argument ih =>
    rw [evaluate, evaluateCall] at h
    obtain ⟨behavior, hb, v, between, hargument, hbehavior⟩ := returns_invoke h
    rw [ih hc hargument] at hbehavior
    exact hsim _ _ _ _ _ hb hbehavior
  | nullCheck guard inner ih => rw [evaluate] at h; exact ih hc h
  | merge guard check property inner ih => rw [evaluate] at h; exact ih hc h
  | setter setting inner fallback ih => rw [evaluate] at h; exact ih hc h

/-- A value that is there, or a constant, does not become null. -/
theorem evaluate_ne_null (hsim : simulator.NeverReturnsNull) {a : Assignment}
    (hs : source ≠ .null ∨ a.isConstant = true)
    (h : Returns (simulator.evaluate source a) heap value heap') : value ≠ .null := by
  induction a using Assignment.byParts generalizing value heap' with
  | direct v presence =>
    rw [evaluate] at h
    rw [(returns_pure.1 h).1]
    split
    · exact literal_ne_null _
    · rename_i hv
      rcases hs with hs | hs
      · exact hs
      · exact absurd hs hv
  | convert c argument ih =>
    rw [evaluate] at h
    obtain ⟨v, between, hargument, hconvert⟩ := returns_bind.1 h
    exact returns_convert_ne_null (ih hs hargument) hconvert
  | refer c =>
    rw [evaluate, evaluateCall] at h
    obtain ⟨behavior, hb, v, between, -, hbehavior⟩ := returns_invoke h
    exact hsim _ _ _ _ _ _ hb hbehavior
  | apply c argument ih =>
    rw [evaluate, evaluateCall] at h
    obtain ⟨behavior, hb, v, between, -, hbehavior⟩ := returns_invoke h
    exact hsim _ _ _ _ _ _ hb hbehavior
  | nullCheck guard inner ih => rw [evaluate] at h; exact ih hs h
  | merge guard check property inner ih => rw [evaluate] at h; exact ih hs h
  | setter setting inner fallback ih => rw [evaluate] at h; exact ih hs h

theorem produce_null (hsim : simulator.MapsNullToNull) {a : Assignment}
    (hc : a.isConstant = false) (h : Returns (simulator.produce .null a) heap value heap') :
    value = .null := by
  obtain ⟨v, between, hv, h⟩ := returns_bind.1 h
  rw [evaluate_null hsim hc hv] at h
  split at h
  · exact returns_copy_null h
  · exact (returns_pure.1 h).1

theorem produce_ne_null (hsim : simulator.NeverReturnsNull) {a : Assignment}
    (hs : source ≠ .null ∨ a.isConstant = true)
    (h : Returns (simulator.produce source a) heap value heap') : value ≠ .null := by
  obtain ⟨v, between, hv, h⟩ := returns_bind.1 h
  have hne := evaluate_ne_null hsim hs hv
  split at h
  · exact returns_copy_ne_null hne h
  · rw [(returns_pure.1 h).1]; exact hne

end Simulator

end BeanMapper.Simulation
