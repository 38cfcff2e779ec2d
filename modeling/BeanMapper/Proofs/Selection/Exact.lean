import BeanMapper.Proofs.Selection.Meaning
import BeanMapper.Proofs.Type.Views

/-!
# Methods that suit exactly

A method that has all that a request asks for and takes exactly the type of the source is dropped by
no step of the choice: nothing is nearer to the source. So it is among the survivors
(`mem_select_of_suits`), and if only one method survives it is that one. `Plain.suits` gives the
methods that suit without a look at their bindings: those with one parameter and no type parameters.
-/

namespace BeanMapper

/-- A method has all that a request asks for, takes exactly the type of the source and creates its
result, as the request wants it to. -/
structure Request.Suits (request : Request) (candidate : Candidate) : Prop where
  bound : (Matching.bind? request candidate).isSome = true
  family : candidate.flags = request.criteria.required
  qualified : Selector.isQualifiedFor request candidate = true
  result : ∀ requested, request.criteria.resultType = some requested →
    candidate.resultType.sameErasure requested = true
  takes : ∃ parameter, candidate.sources = [parameter] ∧ request.source = some parameter.ty ∧
    parameter.ty.isTypeVar = false
  creates : candidate.isUpdate = false ∧ request.criteria.prefersUpdate = false

theorem ClassTable.distance?_self (table : ClassTable) (ty : Ty) :
    table.distance? ty ty.qualifiedName = some 0 := by
  rw [distance?, edges?, searchFuel, searchName, if_pos rfl]

/-- The source type itself is at no distance from a parameter of that type. -/
theorem Selector.sourceRank_self {table : ClassTable} {candidate : Candidate}
    {parameter : Parameter} (h : candidate.sources = [parameter])
    (hvar : parameter.ty.isTypeVar = false) :
    sourceRank table parameter.ty candidate = 0 := by
  rw [sourceRank, h]
  simp [hvar, ClassTable.distance?_self]

/-- A method that suits exactly survives the choice: nothing is nearer, and no update is preferred. -/
theorem Request.mem_select_of_suits {request : Request} {candidates : List Candidate} {index : Nat}
    {candidate : Candidate} (hplace : candidates[index]? = some candidate)
    (h : request.Suits candidate) :
    ∃ s ∈ request.select candidates, s.index = index ∧ s.candidate = candidate := by
  obtain ⟨⟨bindings, typeBindings⟩, hbind⟩ := Option.isSome_iff_exists.1 h.bound
  obtain ⟨parameter, hsources, hsource, hvar⟩ := h.takes
  obtain ⟨hcreate, hprefers⟩ := h.creates
  obtain ⟨hunqualified, hqualified⟩ := Selector.isQualifiedFor_iff.1 h.qualified
  refine ⟨{ index, candidate, bindings, typeBindings }, mem_select_iff.2 ?_, rfl, rfl⟩
  -- it is least because its rank is zero, and right about updates because none is preferred
  exact {
    place := hplace
    bound := hbind
    family := h.family
    unqualified := hunqualified
    qualified := hqualified
    result := fun _ _ => h.result
    least := fun _ source hother t _ => by
      rw [hsource] at hother
      cases hother
      rw [Selector.sourceRank_self hsources hvar]
      exact Nat.zero_le _
    updates := fun _ => by
      rw [hcreate, hprefers]
      exact iff_of_false Bool.false_ne_true fun hboth => Bool.false_ne_true hboth.1 }

/-! ## Plain methods -/

namespace Matching

theorem isVar_nil (ty : Ty) : isVar [] ty = false := by
  cases ty <;> simp [isVar]

theorem mentions_nil (ty : Ty) : mentions [] ty = false := by
  induction ty using Ty.byParts with
  | declared name args ih =>
    rw [mentions, mentionsAny_eq_false_iff]
    exact ih
  | array component ih => exact ih
  | typeVar name => simp [mentions]
  | _ => rfl

/-- Without type parameters a parameter takes its own type. -/
theorem accepts_self (table : ClassTable) (ty : Ty) : accepts table [] [] ty ty = some [] := by
  unfold accepts
  rw [ClassTable.substitute_nil]
  simp [isVar_nil, mentions_nil, ClassTable.isAssignable_refl]

/-- Without type parameters a result can go where its own type is asked for. -/
theorem produces_self (table : ClassTable) (ty : Ty) : produces table [] [] ty ty = some [] := by
  unfold produces
  rw [ClassTable.substitute_nil]
  simp [isVar_nil, mentions_nil, ClassTable.isAssignable_refl]

end Matching

/-- A method from one type to another, not generic and with nothing but its source. -/
structure Candidate.Plain (candidate : Candidate) (source result : Ty) : Prop where
  parameters : ∃ name, candidate.parameters = [⟨name, source, .source⟩]
  returns : candidate.returnType = result
  notGeneric : candidate.typeParameters = []
  flags : candidate.flags = {}
  sourceType : source.isTypeVar = false
  resultType : result.isVoid = false

theorem Candidate.Plain.sources_eq {candidate : Candidate} {source result : Ty}
    (h : candidate.Plain source result) :
    ∃ name, candidate.sources = [⟨name, source, .source⟩] := by
  obtain ⟨name, hp⟩ := h.parameters
  refine ⟨name, ?_⟩
  rw [Signature.sources, Signature.withRole, hp]
  rfl

/-- A plain method can be called with a value of its own source type for its own result type. -/
theorem Candidate.Plain.bound {request : Request} {candidate : Candidate} {source : Ty}
    (h : candidate.Plain source request.target) (hsource : request.source = some source) :
    (Matching.bind? request candidate).isSome = true := by
  obtain ⟨name, hp⟩ := h.parameters
  obtain ⟨_, hs⟩ := h.sources_eq
  have hparameters : Matching.bindParameters request candidate.typeParameters []
      candidate.parameters = some ([⟨name, source, .sourceValue⟩], []) := by
    rw [hp, h.notGeneric]
    simp [Matching.bindParameters, Matching.bindParameter, hsource, Matching.accepts_self]
  have hresult : Matching.bindResult request candidate [] = some [] := by
    have hvoid : request.target.isVoid = false := h.resultType
    simp [Matching.bindResult, h.flags, hs, h.returns, hvoid, h.notGeneric,
      Matching.produces_self]
  rw [Matching.bind?, hparameters]
  simp [hresult]

theorem Candidate.Plain.suits {request : Request} {candidate : Candidate} {source : Ty}
    (h : candidate.Plain source request.target) (hsource : request.source = some source)
    (hcriteria : request.criteria = .mapping) (hqualifiers : candidate.qualifiers = []) :
    request.Suits candidate where
  bound := h.bound hsource
  family := by rw [h.flags, hcriteria]; rfl
  qualified := by rw [Selector.isQualifiedFor, hcriteria, hqualifiers]; rfl
  result := by rw [hcriteria]; exact nofun
  takes := by
    obtain ⟨name, hs⟩ := h.sources_eq
    exact ⟨_, hs, hsource, h.sourceType⟩
  creates := by
    obtain ⟨name, hp⟩ := h.parameters
    refine ⟨?_, by rw [hcriteria]; rfl⟩
    rw [Signature.isUpdate, Signature.mappingTarget?, hp]
    rfl

end BeanMapper
