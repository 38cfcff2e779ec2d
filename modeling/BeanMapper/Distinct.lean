/-!
Lists read as sets that remember the order of insertion: a member that is already there is not
added again. `mem_distinct` says that nothing is lost, `nodup_distinct` that nothing repeats.
-/

namespace BeanMapper

/-- The list with `x` at its end, unless it holds `x` already. -/
def addLast [DecidableEq α] (xs : List α) (x : α) : List α := if x ∈ xs then xs else xs ++ [x]

/-- The first list followed by those members of the second that it lacks. -/
def union [DecidableEq α] (xs ys : List α) : List α := ys.foldl addLast xs

/-- The members of a list in order of first occurrence. -/
def distinct [DecidableEq α] (xs : List α) : List α := union [] xs

theorem mem_addLast [DecidableEq α] {xs : List α} {x y : α} :
    y ∈ addLast xs x ↔ y ∈ xs ∨ y = x := by
  unfold addLast
  split <;> simp_all

theorem mem_union [DecidableEq α] {xs ys : List α} {y : α} :
    y ∈ union xs ys ↔ y ∈ xs ∨ y ∈ ys := by
  induction ys generalizing xs with
  | nil => simp [union]
  | cons a ys ih =>
    have := @ih (addLast xs a)
    simp only [union, List.foldl_cons] at this ⊢
    rw [this, mem_addLast, List.mem_cons, or_assoc]

theorem mem_distinct [DecidableEq α] {xs : List α} {y : α} : y ∈ distinct xs ↔ y ∈ xs := by
  simp [distinct, mem_union]

theorem nodup_addLast [DecidableEq α] {xs : List α} {x : α} (h : xs.Nodup) :
    (addLast xs x).Nodup := by
  unfold addLast
  split
  · exact h
  · next hx => exact List.nodup_append.2 ⟨h, by simp, by rintro a ha b hb rfl; simp_all⟩

theorem nodup_union [DecidableEq α] {xs ys : List α} (h : xs.Nodup) : (union xs ys).Nodup := by
  induction ys generalizing xs with
  | nil => simpa [union] using h
  | cons a ys ih => exact ih (nodup_addLast h)

theorem nodup_distinct [DecidableEq α] (xs : List α) : (distinct xs).Nodup :=
  nodup_union List.nodup_nil

end BeanMapper
