import BeanMapper.Proofs.Selection.Survivors
import BeanMapper.Resolution.Resolver

/-!
# The ways of resolution

`Way` lists the shapes of what resolution answers, each with all that has been checked before it is
built. `resolve_way` says that there are no others; what holds of every answer is proved from it
case by case, without looking into the search.
-/

namespace BeanMapper.Resolver

/-- The ways from a source type to what a demand asks for, starting from a value that is at hand. -/
inductive Way (resolver : Resolver) (source : Ty) (demand : Demand) (argument : Assignment) :
    Assignment → Prop where
  | method {s : Selected} (hs : s ∈ resolver.select demand) :
    Way resolver source demand argument (resolver.call s argument)
  | direct (hq : demand.criteria.isQualified = false)
    (ha : resolver.table.isAssignable source demand.target = true) :
    Way resolver source demand argument argument
  | conversion {c : KnownConversion} (hq : demand.criteria.isQualified = false)
    (hc : Conversion.find? resolver.table source demand.target = some c) :
    Way resolver source demand argument (.convert c.toConversion argument)
  | helper {s : Selected} (hq : demand.criteria.isQualified = false)
    (hs : s ∈ (resolver.request demand).select resolver.helpers) :
    Way resolver source demand argument (resolver.call s argument)
  | twoMethods {inner outer : Selected} (hstep : isStep inner.candidate = true)
    (hne : inner.candidate.returnType ≠ demand.target)
    (hi : inner ∈ resolver.select
      { demand with target := inner.candidate.returnType, criteria := .mapping })
    (ho : outer ∈ resolver.select { demand with source := some inner.candidate.returnType }) :
    Way resolver source demand argument (resolver.call outer (resolver.call inner argument))
  | afterConversion {s : Selected} {p : Parameter} {c : KnownConversion}
    (hstep : isStep s.candidate = true) (hp : s.candidate.sources.head? = some p)
    (hc : Conversion.find? resolver.table source p.ty = some c)
    (hs : s ∈ resolver.select { demand with source := some p.ty }) :
    Way resolver source demand argument
      (resolver.call s (.convert c.toConversion argument))
  | beforeConversion {s : Selected} {c : KnownConversion} (hstep : isStep s.candidate = true)
    (hc : Conversion.find? resolver.table s.candidate.returnType demand.target = some c)
    (hs : s ∈ resolver.select { demand with target := s.candidate.returnType }) :
    Way resolver source demand argument
      (.convert c.toConversion (resolver.call s argument))

variable {resolver : Resolver} {source : Ty} {demand : Demand} {argument : Assignment}

/-! ## Unique choices -/

theorem single_some {selected : List Selected} {s : Selected}
    (h : single demand selected = .ok (some s)) : selected = [s] := by
  unfold single at h
  split at h <;> cases h
  rfl

theorem mem_of_selectUnique {s : Selected} (h : resolver.selectUnique demand = .ok (some s)) :
    s ∈ resolver.select demand := by
  rw [single_some h]; simp

theorem selectExact_eq_some_iff {index : Nat} {s : Selected} :
    resolver.selectExact index demand = some s ↔
      resolver.select demand = [s] ∧ s.index = index := by
  unfold selectExact
  split
  · rename_i t ht
    rw [ht]
    split
    · rename_i hi
      constructor
      · rintro ⟨⟩
        exact ⟨rfl, hi⟩
      · rintro ⟨⟨⟩, -⟩
        rfl
    · rename_i hi
      constructor
      · nofun
      · rintro ⟨⟨⟩, h⟩
        exact absurd h hi
  · rename_i hmany
    constructor
    · nofun
    · rintro ⟨h, -⟩
      exact absurd h (hmany s)

theorem mem_of_selectExact {s : Selected} {index : Nat}
    (h : resolver.selectExact index demand = some s) :
    s ∈ resolver.select demand ∧ s.index = index := by
  obtain ⟨hs, hi⟩ := selectExact_eq_some_iff.1 h
  exact ⟨by rw [hs]; simp, hi⟩

theorem answers_of_mem_select {s : Selected} (h : s ∈ resolver.select demand) :
    s.Answers (resolver.request demand) resolver.candidates := Request.answers_of_mem_select h

theorem mem_steps {s : Selected} (h : s ∈ resolver.steps) :
    resolver.candidates[s.index]? = some s.candidate ∧ isStep s.candidate = true := by
  obtain ⟨hm, hs⟩ := List.mem_filter.1 h
  exact ⟨Selected.mem_ofCandidates hm, hs⟩

/-- The method that is chosen for a step is that step. -/
theorem candidate_of_selectExact {s step : Selected} (hstep : step ∈ resolver.steps)
    (h : resolver.selectExact step.index demand = some s) :
    s ∈ resolver.select demand ∧ s.candidate = step.candidate := by
  obtain ⟨hs, hi⟩ := mem_of_selectExact h
  have hp := (answers_of_mem_select hs).place
  rw [hi, (mem_steps hstep).1] at hp
  exact ⟨hs, (Option.some.inj hp).symm⟩

/-! ## Two steps -/

theorem mem_of_onlyWay {ways : List (String × Assignment)} {a : Assignment}
    (h : onlyWay source demand ways = .ok (some a)) : ∃ name, (name, a) ∈ ways := by
  unfold onlyWay at h
  split at h <;> cases h
  exact ⟨_, List.mem_singleton.2 rfl⟩

theorem afterMethod_way {step : Selected} {name : String} {a : Assignment}
    (hstep : step ∈ resolver.steps)
    (h : resolver.afterMethod? demand argument step = some (name, a)) :
    Way resolver source demand argument a := by
  unfold afterMethod? at h
  dsimp only at h
  split at h
  · cases h
  · rename_i hne
    simp only [Option.bind_eq_bind, Option.bind_eq_some_iff] at h
    obtain ⟨inner, hi, h⟩ := h
    obtain ⟨hmem, hcand⟩ := candidate_of_selectExact hstep hi
    split at h
    · rename_i outer ho
      cases h
      rw [← hcand] at hne hmem ho
      exact .twoMethods (hcand ▸ (mem_steps hstep).2) hne hmem (mem_of_selectUnique ho)
    · cases h

theorem afterConversion_way {step : Selected} {name : String} {a : Assignment}
    (hstep : step ∈ resolver.steps)
    (h : resolver.afterConversion? source demand argument step = some (name, a)) :
    Way resolver source demand argument a := by
  simp only [afterConversion?, Option.bind_eq_bind, Option.bind_eq_some_iff, Option.some.injEq,
    Prod.mk.injEq] at h
  obtain ⟨p, hp, c, hc, s, hs, -, rfl⟩ := h
  obtain ⟨hmem, hcand⟩ := candidate_of_selectExact hstep hs
  exact .afterConversion (hcand ▸ (mem_steps hstep).2) (hcand ▸ hp) hc hmem

theorem beforeConversion_way {step : Selected} {name : String} {a : Assignment}
    (hstep : step ∈ resolver.steps)
    (h : resolver.beforeConversion? demand argument step = some (name, a)) :
    Way resolver source demand argument a := by
  simp only [beforeConversion?, Option.bind_eq_bind, Option.bind_eq_some_iff, Option.some.injEq,
    Prod.mk.injEq] at h
  obtain ⟨c, hc, s, hs, -, rfl⟩ := h
  obtain ⟨hmem, hcand⟩ := candidate_of_selectExact hstep hs
  rw [← hcand] at hc hmem
  exact .beforeConversion (hcand ▸ (mem_steps hstep).2) hc hmem

theorem twoSteps_way {a : Assignment}
    (h : resolver.twoSteps source demand argument = .ok (some a)) :
    Way resolver source demand argument a := by
  simp only [twoSteps, bind, Except.bind, pure, Except.pure] at h
  split at h
  · cases h
  · rename_i found hfound
    split at h
    · cases h
      -- what has been found is the only one of its kind, so it is one of that kind
      obtain ⟨name, hm⟩ := mem_of_onlyWay hfound
      obtain ⟨step, hs, hstep⟩ := List.mem_filterMap.1 hm
      exact afterMethod_way hs hstep
    · split at h
      · cases h
      · rename_i found' hfound'
        split at h
        · cases h
          obtain ⟨name, hm⟩ := mem_of_onlyWay hfound'
          obtain ⟨step, hs, hstep⟩ := List.mem_filterMap.1 hm
          exact afterConversion_way hs hstep
        · obtain ⟨name, hm⟩ := mem_of_onlyWay h
          obtain ⟨step, hs, hstep⟩ := List.mem_filterMap.1 hm
          exact beforeConversion_way hs hstep

/-! ## Resolution -/

theorem unqualified_way {a : Assignment} (hq : demand.criteria.isQualified = false)
    (h : resolver.unqualified source demand argument = .ok (some a)) :
    Way resolver source demand argument a := by
  unfold unqualified at h
  split at h
  · cases h
    exact .direct hq ‹_›
  · split at h
    · cases h
      exact .conversion hq ‹_›
    · simp only [bind, Except.bind, pure, Except.pure] at h
      split at h
      · cases h
      · rename_i found hfound
        cases found with
        | none => cases h
        | some s =>
          cases h
          exact .helper hq (by rw [single_some hfound]; simp)

/-- The last resort: two steps or the error that there is no way. -/
theorem way_of_twoSteps_or {a : Assignment} {e : ResolutionError}
    (h : (do match ← resolver.twoSteps source demand argument with
      | some way => return way
      | none => throw e : Except ResolutionError Assignment) = .ok a) :
    Way resolver source demand argument a := by
  simp only [bind, Except.bind, pure, Except.pure] at h
  split at h
  · cases h
  · rename_i way hway
    split at h <;> cases h
    exact twoSteps_way hway

/-- Whatever resolution answers is one of the ways. -/
theorem resolve_way {value : SourceValue} {presence : Presence} {target : Ty} {criteria : Criteria}
    {context : List Parameter} {a : Assignment}
    (h : resolver.resolve value presence target criteria context = .ok a) :
    Way resolver value.ty { source := some value.ty, target, criteria, context }
      (.direct value presence) a := by
  simp only [resolve, bind, Except.bind, pure, Except.pure] at h
  split at h
  · cases h
  · rename_i found hfound
    split at h
    · cases h
      exact .method (mem_of_selectUnique hfound)
    · split at h
      · exact way_of_twoSteps_or h
      · rename_i hq
        split at h
        · cases h
        · rename_i simple hsimple
          split at h
          · cases h
            exact unqualified_way (by simpa using hq) hsimple
          · exact way_of_twoSteps_or h

end BeanMapper.Resolver
