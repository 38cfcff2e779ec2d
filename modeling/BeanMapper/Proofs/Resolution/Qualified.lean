import BeanMapper.Proofs.Assignment.Steps
import BeanMapper.Proofs.Resolution.Ways
import BeanMapper.Proofs.Selection.Insertion

/-!
# Methods that are asked for

A method with qualifiers is called only where the criteria ask for it, and where they ask for a
method, by qualifiers or by the type of its result, one that they ask for is called. Both are proved
for each of the ways of resolution (`Way.calls`), with the list of the methods called. Of two
methods in a row the inner one is chosen as if nothing were asked for, and the outer one has to
answer.
-/

namespace BeanMapper

/-- A candidate is what the criteria ask for: it has their qualifiers, and its result is of their
type. -/
structure Criteria.IsMetBy (criteria : Criteria) (candidate : Candidate) : Prop where
  qualifiers : ∀ q ∈ criteria.qualifiers, q ∈ candidate.qualifiers
  result : ∀ ty, criteria.resultType = some ty → candidate.resultType.erasure = ty.erasure

/-! ## The choice -/

namespace Request

variable {request : Request} {candidates : List Candidate} {s : Selected}

theorem mem_candidates_of_mem_select (h : s ∈ request.select candidates) :
    s.candidate ∈ candidates :=
  List.mem_of_getElem? (answers_of_mem_select h).place

/-- A survivor has no qualifiers if none are asked for, and all of them otherwise. -/
theorem asked_of_mem_select (h : s ∈ request.select candidates) :
    s.candidate.qualifiers = [] ∨ request.criteria.AsksFor s.candidate := by
  have hchosen := mem_select_iff.1 h
  by_cases hnone : request.criteria.qualifiers = []
  · exact Or.inl (hchosen.unqualified hnone)
  · exact Or.inr ⟨hnone, hchosen.qualified⟩

/-- Where mapping methods are asked for, a survivor is one that is asked for. -/
theorem isMetBy_of_mem_select (h : s ∈ request.select candidates)
    (hrequired : request.criteria.required = {}) : request.criteria.IsMetBy s.candidate where
  qualifiers := (mem_select_iff.1 h).qualified
  result := by
    intro ty hty
    have hsame := (mem_select_iff.1 h).result (by rw [hrequired]) (by rw [hrequired]) ty hty
    exact of_decide_eq_true hsame

end Request

/-! ## Resolution -/

namespace Resolver

variable {resolver : Resolver} {source : Ty} {demand : Demand} {argument a : Assignment}
  {s : Selected}

/-- A method may be called under the criteria: it is declared, or it is a helper where no method is
asked for, and if it has qualifiers it is asked for. -/
structure Permits (resolver : Resolver) (criteria : Criteria) (s : Selected) : Prop where
  provided : s.candidate ∈ resolver.candidates ∨
    criteria.isQualified = false ∧ s.candidate ∈ resolver.helpers
  asked : s.candidate.qualifiers = [] ∨ criteria.AsksFor s.candidate

/-- The calls in an assignment are those of the chosen methods, the last one first, and those that
its argument comes with. -/
def Calls (resolver : Resolver) (argument a : Assignment) (chosen : List Selected) : Prop :=
  a.references.map Reference.call =
    chosen.map (.ofSelected resolver.mapper) ++ argument.references.map Reference.call

/-- The chosen methods serve the criteria: all of them may be called, and if a method is asked for,
one that is asked for is among them. -/
structure Serves (resolver : Resolver) (criteria : Criteria) (chosen : List Selected) : Prop where
  permitted : ∀ s ∈ chosen, resolver.Permits criteria s
  met : criteria.isQualified = true → ∃ s ∈ chosen, criteria.IsMetBy s.candidate

namespace Calls

theorem refl (resolver : Resolver) (argument : Assignment) : resolver.Calls argument argument [] :=
  rfl

theorem convert {chosen : List Selected} (conversion : Conversion)
    (h : resolver.Calls argument a chosen) :
    resolver.Calls argument (.convert conversion a) chosen := by
  unfold Calls
  rw [Assignment.references_convert]
  exact h

theorem call {chosen : List Selected} (s : Selected) (h : resolver.Calls argument a chosen) :
    resolver.Calls argument (resolver.call s a) (s :: chosen) := by
  unfold Calls Resolver.call Reference.apply
  rw [Assignment.references_call, Reference.references_mk, Option.toList_some,
    List.flatMap_singleton, List.map_cons, h]
  rfl

end Calls

namespace Serves

variable {criteria : Criteria}

theorem nil (hq : criteria.isQualified = false) : resolver.Serves criteria [] where
  permitted := List.forall_mem_nil _
  met := fun hasked => by rw [hq] at hasked; cases hasked

theorem answer (h : s ∈ resolver.select demand) (hcriteria : demand.criteria = criteria)
    (hrequired : criteria.required = {}) : resolver.Serves criteria [s] where
  permitted := by
    refine List.forall_mem_singleton.2 ⟨Or.inl (Request.mem_candidates_of_mem_select h), ?_⟩
    exact hcriteria ▸ Request.asked_of_mem_select h
  met := by
    subst hcriteria
    exact fun _ => ⟨s, List.mem_singleton_self s, Request.isMetBy_of_mem_select h hrequired⟩

theorem helper (hq : criteria.isQualified = false) (hcriteria : demand.criteria = criteria)
    (h : s ∈ (resolver.request demand).select resolver.helpers) :
    resolver.Serves criteria [s] where
  permitted := by
    refine List.forall_mem_singleton.2 ⟨Or.inr ⟨hq, ?_⟩, ?_⟩
    · exact Request.mem_candidates_of_mem_select h
    · exact hcriteria ▸ Request.asked_of_mem_select h
  met := fun hasked => by rw [hq] at hasked; cases hasked

/-- A method that is chosen as if nothing were asked for may be called as well. -/
theorem plain {chosen : List Selected} (hchosen : resolver.Serves criteria chosen)
    (h : s ∈ resolver.select demand) (hplain : demand.criteria = .mapping) :
    resolver.Serves criteria (chosen ++ [s]) where
  permitted := by
    have hqualifiers : demand.criteria.qualifiers = [] := by rw [hplain]; rfl
    refine List.forall_mem_append.2 ⟨hchosen.permitted, ?_⟩
    refine List.forall_mem_singleton.2 ⟨?_, ?_⟩
    · exact Or.inl (Request.mem_candidates_of_mem_select h)
    · exact Or.inl ((Request.mem_select_iff.1 h).unqualified hqualifiers)
  met := by
    intro hasked
    obtain ⟨t, ht, hmet⟩ := hchosen.met hasked
    exact ⟨t, List.mem_append_left _ ht, hmet⟩

end Serves

/-- Every way calls methods that serve what is asked for. -/
theorem Way.calls (hrequired : demand.criteria.required = {})
    (h : Way resolver source demand argument a) :
    ∃ chosen, resolver.Calls argument a chosen ∧ resolver.Serves demand.criteria chosen := by
  have start : resolver.Calls argument argument [] := .refl resolver argument
  cases h with
  | @method s hs => exact ⟨[s], start.call s, .answer hs rfl hrequired⟩
  | direct hq _ => exact ⟨[], start, .nil hq⟩
  | conversion hq _ => exact ⟨[], start.convert _, .nil hq⟩
  | @helper s hq hs => exact ⟨[s], start.call s, .helper hq rfl hs⟩
  | @twoMethods inner outer _ _ hi ho =>
    have houter : resolver.Serves demand.criteria [outer] := .answer ho rfl hrequired
    exact ⟨[outer, inner], (start.call inner).call outer, houter.plain hi rfl⟩
  | @afterConversion s _ c _ _ _ hs =>
    exact ⟨[s], (start.convert c.toConversion).call s, .answer hs rfl hrequired⟩
  | @beforeConversion s c _ _ hs =>
    exact ⟨[s], (start.call s).convert c.toConversion, .answer hs rfl hrequired⟩

/-- Where a method is asked for, the value is neither taken as it is nor only converted. -/
theorem Way.type_of_isQualified (hq : demand.criteria.isQualified = true)
    (harg : argument.type = .direct) (h : Way resolver source demand argument a) :
    a.type ≠ .direct ∧ a.type ≠ .converted := by
  cases h with
  | direct hnot _ | conversion hnot _ | helper hnot _ =>
    rw [hnot] at hq
    cases hq
  | method | twoMethods | afterConversion | beforeConversion =>
    simp [call, Reference.apply, Assignment.type, harg, AssignmentType.map, AssignmentType.convert]

/-- **Methods with qualifiers are called only where they are asked for, and a method that is asked
for is called.** Apart from the presence check that the value comes with, a resolution calls methods
that are declared, or helpers where no method is asked for; each has no qualifiers or all that are
asked for. Where a method is asked for, one of those called has the qualifiers and the result that
are asked for, and the value is neither taken as it is nor only converted. -/
theorem resolve_serves {value : SourceValue} {presence : Presence} {target : Ty}
    {criteria : Criteria} {context : List Parameter} (hrequired : criteria.required = {})
    (h : resolver.resolve value presence target criteria context = .ok a) :
    ∃ chosen : List Selected,
      a.references.map Reference.call =
        chosen.map (.ofSelected resolver.mapper) ++ presence.references.map Reference.call ∧
      (∀ s ∈ chosen, s.candidate ∈ resolver.candidates ∨
        criteria.isQualified = false ∧ s.candidate ∈ resolver.helpers) ∧
      (∀ s ∈ chosen, s.candidate.qualifiers = [] ∨ criteria.AsksFor s.candidate) ∧
      (criteria.isQualified = true →
        (∃ s ∈ chosen, s.candidate ∈ resolver.candidates ∧ criteria.IsMetBy s.candidate) ∧
          a.type ≠ .direct ∧ a.type ≠ .converted) := by
  have hway := resolve_way h
  obtain ⟨chosen, hcalls, hserves⟩ := hway.calls hrequired
  unfold Calls at hcalls
  rw [Assignment.references_direct] at hcalls
  refine ⟨chosen, hcalls, fun s hs => (hserves.permitted s hs).provided,
    fun s hs => (hserves.permitted s hs).asked, fun hq => ⟨?_, ?_⟩⟩
  · obtain ⟨s, hs, hmet⟩ := hserves.met hq
    rcases (hserves.permitted s hs).provided with hdeclared | ⟨hnot, -⟩
    · exact ⟨s, hs, hdeclared, hmet⟩
    -- where a method is asked for, no helper may be called
    · rw [hq] at hnot
      cases hnot
  · exact hway.type_of_isQualified hq rfl

end Resolver

/-! ## Titles of articles -/

namespace Press

/-- The mapper has a method for the heading of an article, and two that make titles of headings,
each under its qualifier. -/
def resolver : Resolver where
  table := .declareAll {} [.plain "press.Article", .plain "press.Heading", .plain "press.Title"]
  mapper := .named "press.Mapper"
  candidates := [
    { name := "headingOf"
      parameters := [{ name := "article", ty := .named "press.Article" }]
      returnType := .named "press.Heading"
      owner := some (.named "press.Mapper") },
    { name := "shorten"
      parameters := [{ name := "heading", ty := .named "press.Heading" }]
      returnType := .named "press.Title"
      qualifiers := ["Short"]
      owner := some (.named "press.Mapper") },
    { name := "spellOut"
      parameters := [{ name := "heading", ty := .named "press.Heading" }]
      returnType := .named "press.Title"
      qualifiers := ["Long"]
      owner := some (.named "press.Mapper") }]

def article : SourceValue := .ofParameter "article" (.named "press.Article")

def short : Criteria := { qualifiers := ["Short"], resultType := some (.named "press.Title") }

/-- A short title is made of the heading, which is obtained by a method without qualifiers. -/
theorem resolve_serves_shorten : short.required = {} ∧ short.isQualified = true ∧
    ∃ a, resolver.resolve article .unchecked (.named "press.Title") short [] = .ok a ∧
      a.references.map (fun reference => reference.call.name) = ["shorten", "headingOf"] ∧
      ∃ chosen : List Selected,
        a.references.map Reference.call = chosen.map (.ofSelected resolver.mapper) ∧
        (∀ s ∈ chosen, s.candidate ∈ resolver.candidates) ∧
        (∀ s ∈ chosen, s.candidate.qualifiers = [] ∨ short.AsksFor s.candidate) ∧
        (∃ s ∈ chosen, s.candidate ∈ resolver.candidates ∧ short.IsMetBy s.candidate) ∧
        a.type ≠ .direct ∧ a.type ≠ .converted := by
  have hok : ∃ a, resolver.resolve article .unchecked (.named "press.Title") short [] = .ok a ∧
      a.references.map (fun reference => reference.call.name) = ["shorten", "headingOf"] :=
    ⟨_, rfl, rfl⟩
  obtain ⟨a, ha, hnames⟩ := hok
  obtain ⟨chosen, hcalls, hprovided, hasked, hmet⟩ := Resolver.resolve_serves rfl ha
  obtain ⟨hsome, htype⟩ := hmet rfl
  rw [Presence.references_unchecked, List.map_nil, List.append_nil] at hcalls
  refine ⟨rfl, rfl, a, ha, hnames, chosen, hcalls, fun s hs => ?_, hasked, hsome, htype⟩
  exact (hprovided s hs).resolve_right (fun hhelper => Bool.noConfusion hhelper.1)

end Press

end BeanMapper
