import BeanMapper.Proofs.Selection.Meaning

/-!
# Survivors of the choice

What is known of a method that the six selectors leave, whatever else is in the list: it stands at
its place among the candidates, its parameters and its result are bound, and it is of the family,
the qualifiers and the kind that were asked for.
-/

namespace BeanMapper

/-- What holds of every method that a request leaves of a list of candidates. -/
structure Selected.Answers (request : Request) (candidates : List Candidate) (s : Selected) :
    Prop where
  place : candidates[s.index]? = some s.candidate
  bound : Matching.bind? request s.candidate = some (s.bindings, s.typeBindings)
  family : s.candidate.flags = request.criteria.required
  qualified : Selector.isQualifiedFor request s.candidate = true
  creates : request.criteria.required.any = false → request.criteria.prefersUpdate = false →
    s.candidate.isUpdate = false

theorem Selected.mem_ofCandidates {candidates : List Candidate} {s : Selected}
    (h : s ∈ Selected.ofCandidates candidates) : candidates[s.index]? = some s.candidate :=
  (mem_ofCandidates_iff.1 h).1

theorem Request.answers_of_mem_select {request : Request} {candidates : List Candidate}
    {s : Selected} (h : s ∈ request.select candidates) : s.Answers request candidates := by
  have hchosen := mem_select_iff.1 h
  exact {
    place := hchosen.place
    bound := hchosen.bound
    family := hchosen.family
    qualified := Selector.isQualifiedFor_iff.2 ⟨hchosen.unqualified, hchosen.qualified⟩
    creates := fun hrequired hprefers => by
      rw [← Bool.not_eq_true, hchosen.updates hrequired, hprefers]
      exact fun hboth => Bool.false_ne_true hboth.1 }

end BeanMapper
