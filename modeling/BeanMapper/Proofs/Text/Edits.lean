import BeanMapper.Text.EditDistance
import Mathlib.Order.Bounds.Basic

/-!
# Edits of texts

One edit inserts, deletes or substitutes one character anywhere in a text. The edit distance is the
least number of edits that turn one text into another (`editDistance_isLeast`). By the first
characters of both texts the number is a recursion (`distance`) that some edits reach
(`edits_distance`) and that one edit changes by at most one (`Edit.isNear`), and so no fewer edits
do. The rows of the table are the values of this recursion for the beginnings of both texts, read
from back to front (`foldl_nextRow`).
-/

namespace BeanMapper.Text

variable {a b : List Char} {m n : Nat}

inductive Edit : List Char → List Char → Prop
  | insert (before after : List Char) (c : Char) : Edit (before ++ after) (before ++ c :: after)
  | delete (before after : List Char) (c : Char) : Edit (before ++ c :: after) (before ++ after)
  | substitute (before after : List Char) (c d : Char) :
    Edit (before ++ c :: after) (before ++ d :: after)

/-- A text after a number of edits, one after the other. -/
inductive Edits : Nat → List Char → List Char → Prop
  | none (text : List Char) : Edits 0 text text
  | more {n : Nat} {a b c : List Char} (h : Edit a b) (hrest : Edits n b c) : Edits (n + 1) a c

theorem Edit.cons (c : Char) (h : Edit a b) : Edit (c :: a) (c :: b) := by
  cases h with
  | insert before after d => exact .insert (c :: before) after d
  | delete before after d => exact .delete (c :: before) after d
  | substitute before after d e => exact .substitute (c :: before) after d e

theorem Edits.cons (c : Char) (h : Edits n a b) : Edits n (c :: a) (c :: b) := by
  induction h with
  | none text => exact .none _
  | more h _ ih => exact .more (h.cons c) ih

theorem Edit.reverse (h : Edit a b) : Edit a.reverse b.reverse := by
  cases h with
  | insert before after c => simpa using Edit.insert after.reverse before.reverse c
  | delete before after c => simpa using Edit.delete after.reverse before.reverse c
  | substitute before after c d => simpa using Edit.substitute after.reverse before.reverse c d

theorem Edits.reverse (h : Edits n a b) : Edits n a.reverse b.reverse := by
  induction h with
  | none text => exact .none _
  | more h _ ih => exact .more h.reverse ih

theorem Edits.min (hm : Edits m a b) (hn : Edits n a b) : Edits (min m n) a b := by
  rcases Nat.le_total m n with h | h
  · rwa [Nat.min_eq_left h]
  · rwa [Nat.min_eq_right h]

/-! ## The distance by the first characters -/

/-- The first character is kept or substituted, it is deleted, or another one is inserted. -/
def distance : List Char → List Char → Nat
  | [], b => b.length
  | _ :: a, [] => a.length + 1
  | c :: a, d :: b =>
    min (min (distance a b + if c = d then 0 else 1) (distance a (d :: b) + 1))
      (distance (c :: a) b + 1)
termination_by a b => a.length + b.length

theorem distance_nil (a : List Char) : distance a [] = a.length := by
  cases a <;> simp [distance]

theorem distance_self (a : List Char) : distance a a = 0 := by
  induction a with
  | nil => simp [distance]
  | cons c a ih => simp [distance, ih]

theorem edits_insert (b : List Char) : Edits b.length [] b := by
  induction b with
  | nil => exact .none []
  | cons c b ih => exact .more (.insert [] [] c) (ih.cons c)

theorem edits_delete (a : List Char) : Edits a.length a [] := by
  induction a with
  | nil => exact .none []
  | cons c a ih => exact .more (.delete [] a c) ih

/-- As many edits are enough. -/
theorem edits_distance (a b : List Char) : Edits (distance a b) a b := by
  fun_induction distance a b with
  | case1 b => exact edits_insert b
  | case2 c a => exact edits_delete (c :: a)
  | case3 c a d b ihBoth ihDelete ihInsert =>
    have hboth : Edits (distance a b + if c = d then 0 else 1) (c :: a) (d :: b) := by
      split
      · rename_i hc
        exact hc ▸ ihBoth.cons c
      · exact .more (.substitute [] a c d) (ihBoth.cons d)
    have hdelete : Edits (distance a (d :: b) + 1) (c :: a) (d :: b) :=
      .more (.delete [] a c) ihDelete
    have hinsert : Edits (distance (c :: a) b + 1) (c :: a) (d :: b) :=
      .more (.insert [] (c :: a) d) (ihInsert.cons d)
    exact (hboth.min hdelete).min hinsert

/-! ### One edit -/

/-- From the first text to any other it is at most one step further than from the second. -/
def IsNear (a b : List Char) : Prop := ∀ c, distance a c ≤ distance b c + 1

theorem distance_cons_le (a : List Char) (d : Char) (b : List Char) :
    distance a (d :: b) ≤ distance a b + 1 := by
  cases a with
  | nil => simp [distance]
  | cons c a =>
    rw [distance]
    omega

theorem isNear_delete (a : List Char) (c : Char) : IsNear (c :: a) a := by
  intro text
  cases text with
  | nil => simp [distance_nil]
  | cons d text =>
    rw [distance]
    omega

theorem isNear_insert (a : List Char) (c : Char) : IsNear a (c :: a) := by
  intro text
  induction text with
  | nil => simp [distance_nil]; omega
  | cons d text ih =>
    have hnext := distance_cons_le a d text
    rw [distance.eq_3]
    omega

theorem isNear_substitute (a : List Char) (c d : Char) : IsNear (c :: a) (d :: a) := by
  intro text
  induction text with
  | nil => simp [distance_nil]
  | cons e text ih =>
    have hcost : (if c = e then 0 else 1) ≤ 1 := by split <;> decide
    rw [distance, distance]
    omega

theorem IsNear.cons (h : IsNear a b) (c : Char) : IsNear (c :: a) (c :: b) := by
  intro text
  induction text with
  | nil => simpa [distance_nil] using h []
  | cons d text ih =>
    have hboth := h text
    have hdelete := h (d :: text)
    rw [distance, distance]
    omega

/-- By induction on what stands before the edit. -/
theorem Edit.isNear (h : Edit a b) : IsNear a b := by
  cases h with
  | insert before after c =>
    induction before with
    | nil => exact isNear_insert after c
    | cons d before ih => exact ih.cons d
  | delete before after c =>
    induction before with
    | nil => exact isNear_delete after c
    | cons d before ih => exact ih.cons d
  | substitute before after c d =>
    induction before with
    | nil => exact isNear_substitute after c d
    | cons e before ih => exact ih.cons e

theorem Edits.distance_le (h : Edits n a b) : distance a b ≤ n := by
  induction h with
  | none text => exact Nat.le_of_eq (distance_self text)
  | more h _ ih => exact (h.isNear _).trans (Nat.succ_le_succ ih)

/-! ## The table -/

/-- The distances between a text and those that start with another, both read from back to front. -/
def row (a seen : List Char) : List Char → List Nat
  | [] => [distance a seen]
  | d :: text => distance a seen :: row a (d :: seen) text

theorem row_eq_cons (a seen text : List Char) :
    row a seen text = distance a seen :: (row a seen text).tail := by
  cases text <;> rfl

/-- The cells behind the first one, by induction on what is left of the second text. -/
theorem rowCells_row (a : List Char) (c : Char) (seen text : List Char) :
    rowCells c (distance (c :: a) seen) text (row a seen text) = (row (c :: a) seen text).tail := by
  induction text generalizing seen with
  | nil => rfl
  | cons d text ih =>
    have hcell : distance (c :: a) (d :: seen) =
        min (min (distance a seen + if c = d then 0 else 1) (distance a (d :: seen) + 1))
          (distance (c :: a) seen + 1) := by
      rw [distance]
    rw [row, row_eq_cons a (d :: seen) text, rowCells, ← hcell, ← row_eq_cons, ih, row,
      List.tail_cons, ← row_eq_cons]

theorem nextRow_row (a b : List Char) (c : Char) :
    nextRow b (row a [] b) c = row (c :: a) [] b := by
  have hfirst : (row a [] b).headD 0 + 1 = distance (c :: a) [] := by
    rw [row_eq_cons, List.headD_cons, distance_nil, distance_nil, List.length_cons]
  rw [nextRow, hfirst, rowCells_row, ← row_eq_cons]

theorem row_nil (seen text : List Char) :
    row [] seen text = List.range' seen.length (text.length + 1) := by
  induction text generalizing seen with
  | nil => simp [row, distance]
  | cons d text ih =>
    have hrange : List.range' seen.length ((d :: text).length + 1) =
        seen.length :: List.range' (d :: seen).length (text.length + 1) := List.range'_succ
    rw [row, ih, hrange, distance]

theorem firstRow_eq (b : List Char) : firstRow b = row [] [] b := by
  rw [row_nil, firstRow, List.range_eq_range', List.length_nil]

/-- The row of a beginning of the first text, by induction on what follows it. -/
theorem foldl_nextRow (a seen b : List Char) :
    a.foldl (nextRow b) (row seen [] b) = row (a.reverse ++ seen) [] b := by
  induction a generalizing seen with
  | nil => rfl
  | cons c a ih => rw [List.foldl_cons, nextRow_row, ih, List.reverse_cons, List.append_assoc,
      List.singleton_append]

theorem getLastD_row (a seen text : List Char) (default : Nat) :
    (row a seen text).getLastD default = distance a (text.reverse ++ seen) := by
  induction text generalizing seen default with
  | nil => rfl
  | cons d text ih => rw [row, List.getLastD_cons, ih, List.reverse_cons, List.append_assoc,
      List.singleton_append]

theorem editDistance_eq (a b : List Char) :
    editDistance a b = distance a.reverse b.reverse := by
  rw [editDistance, firstRow_eq, foldl_nextRow, getLastD_row, List.append_nil, List.append_nil]

/-- The edit distance is the least number of edits. -/
theorem editDistance_isLeast (a b : List Char) :
    IsLeast {n | Edits n a b} (editDistance a b) := by
  rw [editDistance_eq]
  constructor
  · have hedits := (edits_distance a.reverse b.reverse).reverse
    rwa [List.reverse_reverse, List.reverse_reverse] at hedits
  · intro n hn
    exact Edits.distance_le (Edits.reverse hn)

end BeanMapper.Text
