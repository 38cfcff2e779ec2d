/-!
Values that generated code works on. Texts and numbers are what they are; lists and maps have an
identity, so that two variables can hold the same list, and their contents are kept in a heap.
Writing at one address leaves all others alone (`items_setItems`, `entries_setEntries`).
-/

namespace BeanMapper.Simulation

/-- A value. A list or a map is an address in the heap. -/
inductive Value where
  | null
  | text (text : String)
  | integer (number : Int)
  | list (address : Nat)
  | map (address : Nat)
  deriving DecidableEq, Repr, Inhabited

def Value.isNull : Value → Bool
  | null => true
  | _ => false

theorem Value.isNull_eq_false {value : Value} (h : value ≠ .null) : value.isNull = false := by
  cases value with
  | null => exact absurd rfl h
  | _ => rfl

/-- The entries of a map in order of their keys' first insertion. -/
abbrev Entries := List (String × Value)

namespace Entries

/-- The entries with the value of a key set, at the key's place or at the end. -/
def put (key : String) (value : Value) : Entries → Entries
  | [] => [(key, value)]
  | (other, old) :: rest =>
    if other = key then (key, value) :: rest else (other, old) :: put key value rest

def putAll (entries others : Entries) : Entries :=
  others.foldl (fun entries entry => entries.put entry.1 entry.2) entries

/-- The keys, each once. -/
def keys (entries : Entries) : List String := entries.map Prod.fst

theorem lookup_cons (key name : String) (value : Value) (rest : Entries) :
    List.lookup key ((name, value) :: rest) =
      if key = name then some value else rest.lookup key := by
  rw [List.lookup_cons]
  by_cases h : key = name
  · simp [h]
  · simp [beq_eq_false_iff_ne.2 h, h]

theorem lookup_put (key other : String) (value : Value) (entries : Entries) :
    (put key value entries).lookup other =
      if other = key then some value else entries.lookup other := by
  induction entries with
  | nil => rw [put, lookup_cons]
  | cons entry rest ih =>
    obtain ⟨name, old⟩ := entry
    by_cases hk : name = key
    · rw [put, if_pos hk, lookup_cons, lookup_cons, hk]
      split <;> rfl
    · rw [put, if_neg hk, lookup_cons, lookup_cons, ih]
      split <;> simp_all

theorem mem_keys_put {key other : String} {value : Value} {entries : Entries} :
    other ∈ (put key value entries).keys ↔ other ∈ entries.keys ∨ other = key := by
  induction entries with
  | nil => simp [put, keys]
  | cons entry rest ih =>
    obtain ⟨name, old⟩ := entry
    simp only [keys] at ih
    by_cases h : name = key <;> simp [put, keys, h, ih] <;> grind

end Entries

/-- The contents of all lists and maps. -/
structure Heap where
  lists : List (List Value) := []
  maps : List Entries := []
  deriving DecidableEq, Repr, Inhabited

namespace Heap

/-! ## Reading, writing and allocating -/

def items (heap : Heap) (address : Nat) : List Value := (heap.lists[address]?).getD []

def entries (heap : Heap) (address : Nat) : Entries := (heap.maps[address]?).getD []

def setItems (heap : Heap) (address : Nat) (items : List Value) : Heap :=
  { heap with lists := heap.lists.set address items }

def setEntries (heap : Heap) (address : Nat) (entries : Entries) : Heap :=
  { heap with maps := heap.maps.set address entries }

/-- A list of its own. -/
def newList (heap : Heap) (items : List Value) : Value × Heap :=
  (.list heap.lists.length, { heap with lists := heap.lists ++ [items] })

/-- A map of its own. -/
def newMap (heap : Heap) (entries : Entries) : Value × Heap :=
  (.map heap.maps.length, { heap with maps := heap.maps ++ [entries] })

theorem items_setItems (heap : Heap) (a b : Nat) (items : List Value)
    (h : a < heap.lists.length) :
    (heap.setItems a items).items b = if a = b then items else heap.items b := by
  by_cases hab : a = b
  · subst hab
    simp [Heap.items, setItems, h]
  · simp [Heap.items, setItems, hab]

theorem entries_setEntries (heap : Heap) (a b : Nat) (entries : Entries)
    (h : a < heap.maps.length) :
    (heap.setEntries a entries).entries b = if a = b then entries else heap.entries b := by
  by_cases hab : a = b
  · subst hab
    simp [Heap.entries, setEntries, h]
  · simp [Heap.entries, setEntries, hab]

theorem items_newList (heap : Heap) (items : List Value) (b : Nat) :
    (heap.newList items).2.items b =
      if b = heap.lists.length then items else heap.items b := by
  simp only [Heap.items, newList]
  grind

theorem entries_newMap (heap : Heap) (entries : Entries) (b : Nat) :
    (heap.newMap entries).2.entries b =
      if b = heap.maps.length then entries else heap.entries b := by
  simp only [Heap.entries, newMap]
  grind

/-! ## Views -/

def size? (heap : Heap) : Value → Option Nat
  | .list address => some (heap.items address).length
  | .map address => some (heap.entries address).length
  | _ => none

/-- Whether two values look alike down to a depth. Maps may differ in order. -/
def alikeTo (heap : Heap) : Nat → Value → Value → Bool
  | 0, _, _ => false
  | depth + 1, .list a, .list b =>
    let left := heap.items a
    let right := heap.items b
    left.length = right.length &&
      (left.zip right).all fun pair => alikeTo heap depth pair.1 pair.2
  | depth + 1, .map a, .map b =>
    let left := heap.entries a
    let right := heap.entries b
    left.length = right.length &&
      left.all fun entry =>
        (right.lookup entry.1).any fun value => alikeTo heap depth entry.2 value
  | _ + 1, a, b => a = b

/-- Whether two values look alike, whatever their addresses. Where no container holds itself, none
is nested more deeply than there are containers. -/
def alike (heap : Heap) (a b : Value) : Bool :=
  heap.alikeTo (heap.lists.length + heap.maps.length + 1) a b

end Heap

end BeanMapper.Simulation
