import BeanMapper.Proofs.Selection.Meaning
import Mathlib.Logic.Equiv.Basic

/-!
# The choice does not depend on the order of the candidates

A candidate in another place is the same candidate with another number. So a permutation of the
list is a renumbering of its places up to order (`exists_renumbering`), and since no step of the
choice looks at a number or at the order of the list, the survivors are renumbered in the same way
(`select_perm`).
-/

namespace BeanMapper

def Selected.renumber (f : Nat → Nat) (s : Selected) : Selected := { s with index := f s.index }

/-- Two lists hold the same candidates, those of the first under other numbers in the second. -/
def Renumbered (f : Nat → Nat) (candidates others : List Candidate) : Prop :=
  f.Injective ∧
    (Selected.ofCandidates others).Perm ((Selected.ofCandidates candidates).map (.renumber f))

variable {f g : Nat → Nat} {candidates others : List Candidate}

/-! ## Permutations as renumberings -/

namespace Selected

theorem map_renumber_comp (selected : List Selected) :
    (selected.map (renumber f)).map (renumber g) = selected.map (renumber (g ∘ f)) := by
  rw [List.map_map]
  rfl

theorem ofCandidates_cons (candidate : Candidate) (candidates : List Candidate) :
    ofCandidates (candidate :: candidates) =
      { index := 0, candidate } :: (ofCandidates candidates).map (renumber Nat.succ) := by
  simp only [ofCandidates, List.zipIdx_cons, List.map_cons, List.map_map]
  rw [List.zipIdx_succ, List.map_map]
  rfl

end Selected

namespace Renumbered

/-- The numbering behind a first member that keeps its place. -/
def behindFirst (f : Nat → Nat) : Nat → Nat
  | 0 => 0
  | n + 1 => f n + 1

theorem behindFirst_injective (h : f.Injective) : (behindFirst f).Injective
  | 0, 0, _ => rfl
  | n + 1, m + 1, he => by rw [h (Nat.succ.inj he)]

theorem cons (candidate : Candidate) (h : Renumbered f candidates others) :
    Renumbered (behindFirst f) (candidate :: candidates) (candidate :: others) := by
  refine ⟨behindFirst_injective h.1, ?_⟩
  have hcomp : behindFirst f ∘ Nat.succ = Nat.succ ∘ f := rfl
  rw [Selected.ofCandidates_cons, Selected.ofCandidates_cons, List.map_cons,
    Selected.map_renumber_comp, hcomp, ← Selected.map_renumber_comp]
  exact (h.2.map _).cons _

theorem swap (first second : Candidate) (rest : List Candidate) :
    Renumbered (Equiv.swap 0 1) (second :: first :: rest) (first :: second :: rest) := by
  refine ⟨(Equiv.swap 0 1).injective, ?_⟩
  -- behind the first two places nothing moves
  have hcomp : Equiv.swap 0 1 ∘ Nat.succ ∘ Nat.succ = Nat.succ ∘ Nat.succ := by
    funext n
    exact Equiv.swap_apply_of_ne_of_ne (Nat.succ_ne_zero _) (by simp)
  simp only [Selected.ofCandidates_cons, List.map_cons, Selected.map_renumber_comp, hcomp]
  exact .swap _ _ _

theorem trans {f g : Nat → Nat} {first second third : List Candidate}
    (hf : Renumbered f first second) (hg : Renumbered g second third) :
    Renumbered (g ∘ f) first third := by
  refine ⟨hg.1.comp hf.1, hg.2.trans ?_⟩
  rw [← Selected.map_renumber_comp]
  exact hf.2.map _

end Renumbered

/-- A permutation of the candidates renumbers them. -/
theorem exists_renumbering (h : candidates.Perm others) : ∃ f, Renumbered f candidates others := by
  induction h with
  | nil => exact ⟨id, Function.injective_id, .refl _⟩
  | cons candidate _ ih =>
    obtain ⟨f, hf⟩ := ih
    exact ⟨_, hf.cons candidate⟩
  | swap first second rest => exact ⟨_, .swap first second rest⟩
  | trans _ _ ihf ihg =>
    obtain ⟨f, hf⟩ := ihf
    obtain ⟨g, hg⟩ := ihg
    exact ⟨_, hf.trans hg⟩

/-! ## Steps of the choice -/

namespace Selector

variable {request : Request} {selected members : List Selected}

/-- The least of a list does not depend on its order. -/
theorem min?_perm {ranks others : List Nat} (h : ranks.Perm others) : ranks.min? = others.min? := by
  cases hm : others.min? with
  | none => rw [List.min?_eq_none_iff] at hm ⊢; exact (hm ▸ h).eq_nil
  | some least =>
    rw [List.min?_eq_some_iff] at hm ⊢
    exact ⟨h.mem_iff.2 hm.1, fun rank hrank => hm.2 rank (h.mem_iff.1 hrank)⟩

theorem nearest_perm {α : Type} (rank : α → Nat) {members others : List α}
    (h : members.Perm others) : (nearest rank members).Perm (nearest rank others) := by
  unfold nearest
  rw [min?_perm (h.map rank)]
  split
  · exact h.filter _
  · exact .refl _

theorem nearest_map {α β : Type} (rank : β → Nat) (place : α → β) (members : List α) :
    nearest rank (members.map place) = (nearest (rank ∘ place) members).map place := by
  unfold nearest
  rw [List.map_map]
  split
  · exact List.filter_map
  · rfl

/-- No step of the choice looks at the order of the list. -/
theorem apply_perm (selector : Selector) (h : selected.Perm members) :
    (selector.apply request selected).Perm (selector.apply request members) := by
  cases selector with
  | type => exact h.filterMap _
  | family => exact h.filter _
  | qualifier => exact h.filter _
  | targetType =>
    simp only [apply]
    split
    · exact h
    · split
      · exact h
      · exact h.filter _
  | inheritance =>
    rw [apply_inheritance, apply_inheritance]
    split
    · exact h
    · split
      · exact h
      · exact nearest_perm _ h
  | createOrUpdate =>
    have hempty := ((h.filter fun s => s.candidate.isUpdate).isEmpty_eq)
    simp only [apply, hempty]
    split
    · exact h
    · split <;> exact h.filter _

/-- No step of the choice looks at a number. -/
theorem apply_renumber (selector : Selector) (f : Nat → Nat) (selected : List Selected) :
    selector.apply request (selected.map (.renumber f)) =
      (selector.apply request selected).map (.renumber f) := by
  cases selector with
  | type =>
    simp only [apply, List.filterMap_map, List.map_filterMap]
    refine congrArg (List.filterMap · selected) (funext fun s => ?_)
    rw [Option.map_map]
    rfl
  | family => exact List.filter_map
  | qualifier => exact List.filter_map
  | targetType =>
    simp only [apply]
    split
    · rfl
    · split
      · rfl
      · exact List.filter_map
  | inheritance =>
    rw [apply_inheritance, apply_inheritance]
    split
    · rfl
    · split
      · rfl
      · exact nearest_map _ _ _
  | createOrUpdate =>
    -- the updates among the renumbered are the updates, renumbered
    have hupdates : (selected.map (Selected.renumber f)).filter (fun s => s.candidate.isUpdate) =
        (selected.filter fun s => s.candidate.isUpdate).map (Selected.renumber f) :=
      List.filter_map
    simp only [apply, hupdates, List.isEmpty_map]
    split
    · rfl
    · split
      · rfl
      · exact List.filter_map

end Selector

/-! ## The choice -/

namespace Request

variable {request : Request}

theorem foldl_apply_perm (chain : List Selector) {selected members : List Selected}
    (h : members.Perm (selected.map (.renumber f))) :
    (chain.foldl (fun members selector => selector.apply request members) members).Perm
      ((chain.foldl (fun members selector => selector.apply request members) selected).map
        (.renumber f)) := by
  induction chain generalizing selected members with
  | nil => exact h
  | cons selector rest ih =>
    refine ih ?_
    rw [← Selector.apply_renumber]
    exact Selector.apply_perm selector h

/-- The survivors of the choice are renumbered as the candidates are. -/
theorem select_perm (h : Renumbered f candidates others) :
    (request.select others).Perm ((request.select candidates).map (.renumber f)) := by
  rw [select, select, selectBy, selectBy, narrow_eq_foldl, narrow_eq_foldl]
  exact foldl_apply_perm Selector.chain h.2

end Request

end BeanMapper
