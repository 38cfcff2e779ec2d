import BeanMapper.Proofs.Resolution.Order
import BeanMapper.Proofs.Selection.Insertion

/-!
# Methods that no one asks for

A method with qualifiers has no influence on a resolution that does not ask for them: it is chosen
nowhere, so it is no step on the way either, and all other methods are chosen where they were
without it (`Resolver.resolve_inserted`). Factories, callbacks and presence checks are never asked
for by qualifiers.
-/

namespace BeanMapper.Resolver

theorem single_renumber (f : Nat → Nat) (demand : Demand) (selected : List Selected) :
    single demand (selected.map (.renumber f)) =
      (single demand selected).map (Option.map (.renumber f)) := by
  match selected with
  | [] => rfl
  | [s] => rfl
  | s :: s' :: rest =>
    have htexts : ambiguity demand ((s :: s' :: rest).map (.renumber f)) =
        ambiguity demand (s :: s' :: rest) := by
      rw [ambiguity, List.map_map]
      rfl
    exact congrArg Except.error htexts

theorem mapping_not_asksFor (candidate : Candidate) : ¬Criteria.mapping.AsksFor candidate :=
  Criteria.not_asksFor_of_nil rfl candidate

/-! ## Choosing methods -/

section Insertion

variable {resolver : Resolver} {f : Nat → Nat} {place : Nat} {unasked : Candidate}
  {others : List Candidate} (h : Inserted f place unasked resolver.candidates others)
  (hq : unasked.qualifiers ≠ [])

include h hq

theorem select_inserted (demand : Demand) (hasks : ¬demand.criteria.AsksFor unasked) :
    (resolver.withCandidates others).select demand =
      (resolver.select demand).map (.renumber f) :=
  Request.select_inserted h hq hasks

theorem selectUnique_inserted (demand : Demand) (hasks : ¬demand.criteria.AsksFor unasked) :
    (resolver.withCandidates others).selectUnique demand =
      (resolver.selectUnique demand).map (Option.map (.renumber f)) := by
  rw [selectUnique, select_inserted h hq demand hasks, single_renumber]
  rfl

/-- A method that alone answers a demand does so at its other place. -/
theorem selectExact_inserted (index : Nat) (demand : Demand)
    (hasks : ¬demand.criteria.AsksFor unasked) :
    (resolver.withCandidates others).selectExact (f index) demand =
      (resolver.selectExact index demand).map (.renumber f) := by
  unfold selectExact
  rw [select_inserted h hq demand hasks]
  match resolver.select demand with
  | [] => rfl
  | [s] =>
    have hindex : (s.renumber f).index = f index ↔ s.index = index := h.injective.eq_iff
    simp only [List.map_cons, List.map_nil, hindex]
    split <;> rfl
  | s :: s' :: rest => rfl

/-- The method that is not asked for answers no demand. -/
theorem selectExact_place (demand : Demand) (hasks : ¬demand.criteria.AsksFor unasked) :
    (resolver.withCandidates others).selectExact place demand = none := by
  unfold selectExact
  rw [select_inserted h hq demand hasks]
  match resolver.select demand with
  | [] => rfl
  | [s] => exact if_neg (h.ne_place s.index)
  | s :: s' :: rest => rfl

/-! ## Two steps -/

variable {source : Ty} {demand : Demand} {argument : Assignment}

theorem afterMethod_inserted (hasks : ¬demand.criteria.AsksFor unasked) (first : Selected) :
    (resolver.withCandidates others).afterMethod? demand argument (first.renumber f) =
      resolver.afterMethod? demand argument first := by
  refine afterMethod_of_exact first
    (selectExact_inserted h hq _ _ (mapping_not_asksFor unasked)) ?_
  rw [selectUnique_inserted h hq { demand with source := some first.candidate.returnType } hasks]
  exact Agree.map _ _

theorem afterMethod_place (step : Selected) (hstep : step.index = place) :
    (resolver.withCandidates others).afterMethod? demand argument step = none := by
  unfold afterMethod?
  dsimp only
  split
  · rfl
  · rw [hstep, selectExact_place h hq _ (mapping_not_asksFor unasked)]
    rfl

theorem afterConversion_inserted (hasks : ¬demand.criteria.AsksFor unasked) (step : Selected) :
    (resolver.withCandidates others).afterConversion? source demand argument (step.renumber f) =
      resolver.afterConversion? source demand argument step :=
  afterConversion_of_exact step fun ty =>
    selectExact_inserted h hq _ { demand with source := some ty } hasks

theorem afterConversion_place (hasks : ¬demand.criteria.AsksFor unasked) (step : Selected)
    (hstep : step.index = place) :
    (resolver.withCandidates others).afterConversion? source demand argument step = none := by
  unfold afterConversion?
  rw [hstep]
  refine Option.bind_eq_none_iff.2 fun parameter _ =>
    Option.bind_eq_none_iff.2 fun conversion _ => ?_
  rw [selectExact_place h hq { demand with source := some parameter.ty } hasks]
  rfl

theorem beforeConversion_inserted (hasks : ¬demand.criteria.AsksFor unasked) (step : Selected) :
    (resolver.withCandidates others).beforeConversion? demand argument (step.renumber f) =
      resolver.beforeConversion? demand argument step :=
  beforeConversion_of_exact step
    (selectExact_inserted h hq _ { demand with target := step.candidate.returnType } hasks)

theorem beforeConversion_place (hasks : ¬demand.criteria.AsksFor unasked) (step : Selected)
    (hstep : step.index = place) :
    (resolver.withCandidates others).beforeConversion? demand argument step = none := by
  unfold beforeConversion?
  rw [hstep]
  refine Option.bind_eq_none_iff.2 fun conversion _ => ?_
  rw [selectExact_place h hq { demand with target := step.candidate.returnType } hasks]
  rfl

omit hq in
/-- Ways that do not depend on numbers, and do not lead over the new place, are the same. -/
theorem ways_inserted {way other : Selected → Option (String × Assignment)}
    (hway : ∀ s, other (s.renumber f) = way s)
    (hplace : ∀ s, s.index = place → other s = none) :
    (resolver.withCandidates others).steps.filterMap other = resolver.steps.filterMap way := by
  obtain ⟨before, after, hcandidates, hothers⟩ := h.split
  let stepBy (s : Selected) := if isStep s.candidate = true then other s else none
  have hnew : stepBy { index := place, candidate := unasked } = none := by
    simp only [stepBy, hplace { index := place, candidate := unasked } rfl, ite_self]
  have hold : stepBy ∘ Selected.renumber f =
      fun s => if isStep s.candidate = true then way s else none := by
    funext s
    simp only [stepBy, Function.comp, hway]
    rfl
  calc (resolver.withCandidates others).steps.filterMap other
      = (before ++ { index := place, candidate := unasked } :: after).filterMap stepBy := by
        rw [steps, withCandidates, hothers, List.filterMap_filter]
    _ = (before ++ after).filterMap stepBy := by
        rw [List.filterMap_append, List.filterMap_cons_none hnew, List.filterMap_append]
    _ = resolver.steps.filterMap way := by
        rw [← hcandidates, List.filterMap_map, hold, steps, List.filterMap_filter]

theorem twoSteps_inserted (hasks : ¬demand.criteria.AsksFor unasked) :
    (resolver.withCandidates others).twoSteps source demand argument =
      resolver.twoSteps source demand argument := by
  unfold twoSteps
  dsimp only
  rw [ways_inserted h (afterMethod_inserted h hq hasks) (afterMethod_place h hq),
    ways_inserted h (afterConversion_inserted h hq hasks) (afterConversion_place h hq hasks),
    ways_inserted h (beforeConversion_inserted h hq hasks) (beforeConversion_place h hq hasks)]

/-! ## Resolution -/

/-- A method with qualifiers that are not asked for has no influence on how a value is mapped, nor
on the error if it cannot be. -/
theorem resolve_inserted (value : SourceValue) (presence : Presence) (target : Ty)
    (criteria : Criteria) (context : List Parameter) (hasks : ¬criteria.AsksFor unasked) :
    (resolver.withCandidates others).resolve value presence target criteria context =
      resolver.resolve value presence target criteria context := by
  unfold resolve
  dsimp only
  rw [selectUnique_inserted h hq { source := some value.ty, target, criteria, context } hasks,
    twoSteps_inserted h hq hasks]
  rcases resolver.selectUnique { source := some value.ty, target, criteria, context } with
    e | _ | selected <;> rfl

theorem factory_inserted (target : Ty) (source : Option Ty) (context : List Parameter) :
    (resolver.withCandidates others).factory target source context =
      resolver.factory target source context := by
  have hselect := select_inserted h hq { source, target, criteria := .objectFactory, context }
    (Criteria.not_asksFor_of_nil rfl unasked)
  let taking (selected : List Selected) :=
    selected.filter fun s => !s.candidate.sources.isEmpty
  -- the factories that take the source are the same, under their other numbers
  have htaking (selected : List Selected) :
      taking (selected.map (.renumber f)) = (taking selected).map (.renumber f) :=
    List.filter_map
  have hchosen (selected : List Selected) :
      (if source.isSome && !(taking (selected.map (.renumber f))).isEmpty then
        taking (selected.map (.renumber f)) else selected.map (.renumber f)) =
      (if source.isSome && !(taking selected).isEmpty then taking selected else selected).map
        (.renumber f) := by
    rw [htaking, List.isEmpty_map]
    split <;> rfl
  simp only [factory, hselect]
  rw [hchosen, single_renumber]
  rcases single _ _ with e | _ | selected <;> rfl

theorem callbacks_inserted (timing : Timing) (source : Option Ty) (target : Ty)
    (context : List Parameter) :
    (resolver.withCandidates others).callbacks timing source target context =
      resolver.callbacks timing source target context := by
  unfold callbacks
  dsimp only
  rw [select_inserted h hq _ (Criteria.not_asksFor_of_nil rfl unasked), List.filter_map,
    List.map_map]
  rfl

theorem presenceCheck_inserted (source : Ty) (context : List Parameter) :
    (resolver.withCandidates others).presenceCheck source context =
      resolver.presenceCheck source context := by
  unfold presenceCheck
  rw [selectUnique_inserted h hq _ (Criteria.not_asksFor_of_nil rfl unasked)]
  rcases resolver.selectUnique _ with e | _ | selected <;> rfl

end Insertion

end BeanMapper.Resolver
