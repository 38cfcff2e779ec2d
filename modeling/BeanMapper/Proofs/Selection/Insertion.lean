import BeanMapper.Proofs.Selection.Order

/-!
# A candidate that is not asked for

A candidate that is put into the list at any place gives those behind it other numbers (`Inserted`).
If it has qualifiers and the criteria do not ask for them, it does not outlive the first three steps
of the choice, which look at each candidate by itself. The later steps compare the candidates that
are left, and it is not among them: so the survivors are those there were, under their other numbers
(`Request.select_inserted`).
-/

namespace BeanMapper

/-- The criteria ask for qualifiers, and the candidate has them all. -/
def Criteria.AsksFor (criteria : Criteria) (candidate : Candidate) : Prop :=
  criteria.qualifiers ≠ [] ∧ ∀ q ∈ criteria.qualifiers, q ∈ candidate.qualifiers

theorem Criteria.not_asksFor_of_nil {criteria : Criteria} (h : criteria.qualifiers = [])
    (candidate : Candidate) : ¬criteria.AsksFor candidate :=
  fun hasks => hasks.1 h

/-- The second list is the first with one more candidate. It is at a place of its own, and the
others are in the same order, under other numbers. -/
structure Inserted (f : Nat → Nat) (place : Nat) (candidate : Candidate)
    (candidates others : List Candidate) : Prop where
  injective : f.Injective
  ne_place : ∀ n, f n ≠ place
  split : ∃ before after,
    (Selected.ofCandidates candidates).map (.renumber f) = before ++ after ∧
      Selected.ofCandidates others = before ++ { index := place, candidate } :: after

variable {f : Nat → Nat} {place : Nat} {candidate : Candidate}
  {candidates others : List Candidate}

namespace Inserted

theorem first (candidate : Candidate) (candidates : List Candidate) :
    Inserted Nat.succ 0 candidate candidates (candidate :: candidates) where
  injective := fun _ _ => Nat.succ.inj
  ne_place := Nat.succ_ne_zero
  split := ⟨[], _, rfl, Selected.ofCandidates_cons candidate candidates⟩

theorem behind (first : Candidate) (h : Inserted f place candidate candidates others) :
    Inserted (Renumbered.behindFirst f) (place + 1) candidate (first :: candidates)
      (first :: others) where
  injective := Renumbered.behindFirst_injective h.injective
  ne_place
    | 0 => (Nat.succ_ne_zero place).symm
    | n + 1 => fun he => h.ne_place n (Nat.succ.inj he)
  split := by
    obtain ⟨before, after, hcandidates, hothers⟩ := h.split
    have hcomp : Renumbered.behindFirst f ∘ Nat.succ = Nat.succ ∘ f := rfl
    refine ⟨{ index := 0, candidate := first } :: before.map (.renumber Nat.succ),
      after.map (.renumber Nat.succ), ?_, ?_⟩
    · rw [Selected.ofCandidates_cons, List.map_cons, Selected.map_renumber_comp, hcomp,
        ← Selected.map_renumber_comp, hcandidates, List.map_append]
      rfl
    · rw [Selected.ofCandidates_cons, hothers, List.map_append, List.map_cons]
      rfl

end Inserted

/-- A candidate can be inserted anywhere. -/
theorem exists_inserted (candidate : Candidate) (before after : List Candidate) :
    ∃ f place, Inserted f place candidate (before ++ after) (before ++ candidate :: after) := by
  induction before with
  | nil => exact ⟨_, _, .first candidate after⟩
  | cons first before ih =>
    obtain ⟨f, place, h⟩ := ih
    exact ⟨_, _, h.behind first⟩

/-! ## The choice -/

namespace Selector

variable {request : Request} {selected : Selected} {before after : List Selected}

theorem isQualifiedFor_of_not_asksFor (hq : candidate.qualifiers ≠ [])
    (h : ¬request.criteria.AsksFor candidate) : isQualifiedFor request candidate = false := by
  unfold isQualifiedFor
  split
  · simpa using hq
  · rename_i requested hne
    refine eq_false_of_ne_true fun hall => h ⟨hne, fun q hmem => ?_⟩
    simpa using List.all_eq_true.1 hall q hmem

/-- Up to the choice by qualifiers each candidate stands for itself, so one that it does not leave
might as well not have been there. -/
theorem apply_unqualified (h : isQualifiedFor request selected.candidate = false) :
    qualifier.apply request (family.apply request (type.apply request
        (before ++ selected :: after))) =
      qualifier.apply request (family.apply request (type.apply request (before ++ after))) := by
  simp only [apply, List.filterMap_append, List.filter_append, List.append_cancel_left_eq]
  rw [List.filterMap_cons]
  split
  · rfl
  · rename_i bound hbound
    obtain ⟨bindings, -, rfl⟩ := Option.map_eq_some_iff.1 hbound
    rw [List.filter_cons]
    split
    · exact List.filter_cons_of_neg (by simp [h])
    · rfl

end Selector

namespace Request

variable {request : Request}

theorem foldl_apply_renumber (chain : List Selector) (f : Nat → Nat) (selected : List Selected) :
    chain.foldl (fun members selector => selector.apply request members)
        (selected.map (.renumber f)) =
      (chain.foldl (fun members selector => selector.apply request members) selected).map
        (.renumber f) := by
  induction chain generalizing selected with
  | nil => rfl
  | cons selector rest ih =>
    rw [List.foldl_cons, List.foldl_cons, Selector.apply_renumber, ih]

/-- A candidate with qualifiers that are not asked for changes the numbers of the survivors and
nothing else. -/
theorem select_inserted (h : Inserted f place candidate candidates others)
    (hq : candidate.qualifiers ≠ []) (hasks : ¬request.criteria.AsksFor candidate) :
    request.select others = (request.select candidates).map (.renumber f) := by
  obtain ⟨before, after, hcandidates, hothers⟩ := h.split
  have hqualified := Selector.isQualifiedFor_of_not_asksFor hq hasks
  rw [select, select, selectBy, selectBy, narrow_eq_foldl, narrow_eq_foldl,
    ← foldl_apply_renumber, hcandidates, hothers]
  simp only [Selector.chain, List.foldl_cons]
  rw [Selector.apply_unqualified hqualified]

end Request

end BeanMapper
