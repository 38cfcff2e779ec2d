import BeanMapper.Selection.Selector

/-!
# What the choice means

A request leaves those candidates that answer it by themselves (`Selected.Eligible`), that no other
such candidate is nearer to the source than (`Selected.Nearest`), and that update or create as the
nearest ones allow (`Selected.Chosen`). The six selectors come to this one condition at a time: a
lemma for each says which members of a list it keeps. The shortcuts that are taken on the way make
no difference: a short list is not compared (`Selector.apply_inheritance`), and nothing is asked
once nothing is left (`Request.narrow_eq_foldl`). `Request.select_exactly` puts them together: the
choice is the list of those candidates, each once and in their order.
-/

namespace BeanMapper

namespace Selected

variable (request : Request) (candidates : List Candidate)

/-- A candidate answers a request by itself: its parameters are bound and its result fits, and it is
of the family, the qualifiers and the result type that are asked for. Callbacks and presence checks
are not asked for by their result. -/
structure Eligible (s : Selected) : Prop where
  place : candidates[s.index]? = some s.candidate
  bound : Matching.bind? request s.candidate = some (s.bindings, s.typeBindings)
  family : s.candidate.flags = request.criteria.required
  unqualified : request.criteria.qualifiers = [] → s.candidate.qualifiers = []
  qualified : ∀ q ∈ request.criteria.qualifiers, q ∈ s.candidate.qualifiers
  result : request.criteria.required.isCallback = false →
    request.criteria.required.isPresenceCheck = false →
      ∀ ty, request.criteria.resultType = some ty → s.candidate.resultType.sameErasure ty = true

/-- A candidate answers a request, and unless callbacks are asked for, none that does is nearer to
the source. -/
structure Nearest (s : Selected) : Prop extends s.Eligible request candidates where
  least : request.criteria.required.isCallback = false →
    ∀ source, request.source = some source → ∀ t : Selected, t.Eligible request candidates →
      Selector.sourceRank request.table source s.candidate ≤
        Selector.sourceRank request.table source t.candidate

/-- A candidate is left by a request: it is one of the nearest, and if mapping methods are asked
for, it updates exactly if updates are preferred and some nearest candidate is one. -/
structure Chosen (s : Selected) : Prop extends s.Nearest request candidates where
  updates : request.criteria.required.any = false →
    (s.candidate.isUpdate = true ↔ request.criteria.prefersUpdate = true ∧
      ∃ t : Selected, t.Nearest request candidates ∧ t.candidate.isUpdate = true)

theorem mem_ofCandidates_iff {candidates : List Candidate} {s : Selected} :
    s ∈ ofCandidates candidates ↔
      candidates[s.index]? = some s.candidate ∧ s.bindings = [] ∧ s.typeBindings = [] := by
  simp only [ofCandidates, List.mem_map]
  constructor
  · rintro ⟨⟨candidate, index⟩, hm, rfl⟩
    exact ⟨List.mk_mem_zipIdx_iff_getElem?.1 hm, rfl, rfl⟩
  · obtain ⟨index, candidate, bindings, typeBindings⟩ := s
    rintro ⟨hplace, rfl, rfl⟩
    exact ⟨(candidate, index), List.mk_mem_zipIdx_iff_getElem?.2 hplace, rfl⟩

theorem exists_ofCandidates_iff {candidates : List Candidate} {index : Nat}
    {candidate : Candidate} :
    (∃ t ∈ ofCandidates candidates, t.index = index ∧ t.candidate = candidate) ↔
      candidates[index]? = some candidate := by
  constructor
  · rintro ⟨t, ht, rfl, rfl⟩
    exact (mem_ofCandidates_iff.1 ht).1
  · intro hplace
    exact ⟨{ index, candidate }, mem_ofCandidates_iff.2 ⟨hplace, rfl, rfl⟩, rfl, rfl⟩

theorem index_ofCandidates (candidates : List Candidate) :
    (ofCandidates candidates).map index = List.range candidates.length := by
  rw [ofCandidates, List.map_map, List.range_eq_range']
  exact List.zipIdx_map_snd 0 candidates

end Selected

/-! ## Shortcuts -/

namespace Selector

variable {request : Request}

/-- The members of a short list are the nearest without a comparison. -/
theorem nearest_of_length_lt_two {α : Type} (rank : α → Nat) {members : List α}
    (h : members.length < 2) : nearest rank members = members := by
  match members, h with
  | [], _ => rfl
  | [x], _ => simp [nearest]

/-- The nearest are kept, of a short list too. -/
theorem apply_inheritance (request : Request) (selected : List Selected) :
    inheritance.apply request selected =
      match request.source with
      | none => selected
      | some source =>
        if request.criteria.required.isCallback then selected
        else nearest (fun s => sourceRank request.table source s.candidate) selected := by
  simp only [apply]
  cases request.source with
  | none => rfl
  | some source =>
    by_cases hshort : selected.length < 2
    · simp [hshort, nearest_of_length_lt_two]
    · simp [hshort]

/-- Of nothing, nothing is left. -/
theorem apply_nil (selector : Selector) : selector.apply request [] = [] := by
  cases selector with
  | targetType => simp only [apply]; split <;> simp
  | inheritance => simp only [apply]; split <;> simp
  | createOrUpdate => simp [apply]
  | _ => rfl

end Selector

namespace Request

/-- Taking the steps that are left out where nothing is left makes no difference. -/
theorem narrow_eq_foldl (request : Request) (chain : List Selector) (selected : List Selected) :
    request.narrow chain selected =
      chain.foldl (fun members selector => selector.apply request members) selected := by
  induction chain generalizing selected with
  | nil => rfl
  | cons selector rest ih =>
    rw [narrow, List.foldl_cons, ← ih]
    split
    · rename_i hnone
      rw [hnone]
      cases rest with
      | nil => rfl
      | cons next rest => rw [narrow, next.apply_nil]
    · rfl

end Request

/-! ## One selector -/

namespace Selector

variable {request : Request} {candidates : List Candidate} {selected : List Selected}
  {s : Selected}

/-- The type selector keeps what can be bound, with its bindings. -/
theorem mem_apply_type_iff :
    s ∈ type.apply request selected ↔
      (∃ t ∈ selected, t.index = s.index ∧ t.candidate = s.candidate) ∧
        Matching.bind? request s.candidate = some (s.bindings, s.typeBindings) := by
  simp only [apply, List.mem_filterMap, Option.map_eq_some_iff]
  constructor
  · rintro ⟨t, ht, ⟨bindings, typeBindings⟩, hbound, rfl⟩
    exact ⟨⟨t, ht, rfl, rfl⟩, hbound⟩
  · obtain ⟨index, candidate, bindings, typeBindings⟩ := s
    rintro ⟨⟨t, ht, rfl, rfl⟩, hbound⟩
    exact ⟨t, ht, (bindings, typeBindings), hbound, rfl⟩

theorem mem_apply_family_iff :
    s ∈ family.apply request selected ↔
      s ∈ selected ∧ s.candidate.flags = request.criteria.required := by
  simp only [apply, List.mem_filter, decide_eq_true_eq]

theorem isQualifiedFor_iff {candidate : Candidate} :
    isQualifiedFor request candidate = true ↔
      (request.criteria.qualifiers = [] → candidate.qualifiers = []) ∧
        ∀ q ∈ request.criteria.qualifiers, q ∈ candidate.qualifiers := by
  unfold isQualifiedFor
  split
  · rename_i hnone
    simp [hnone]
  · rename_i hsome
    simp only [List.all_eq_true, decide_eq_true_eq]
    exact (and_iff_right fun hnone => absurd hnone hsome).symm

theorem mem_apply_qualifier_iff :
    s ∈ qualifier.apply request selected ↔
      s ∈ selected ∧ (request.criteria.qualifiers = [] → s.candidate.qualifiers = []) ∧
        ∀ q ∈ request.criteria.qualifiers, q ∈ s.candidate.qualifiers := by
  simp only [apply, List.mem_filter, isQualifiedFor_iff]

theorem mem_apply_targetType_iff :
    s ∈ targetType.apply request selected ↔
      s ∈ selected ∧ (request.criteria.required.isCallback = false →
        request.criteria.required.isPresenceCheck = false →
          ∀ ty, request.criteria.resultType = some ty →
            s.candidate.resultType.sameErasure ty = true) := by
  simp only [apply]
  split
  · rename_i hnone
    simp [hnone]
  · rename_i requested hsome
    split
    · rename_i hother
      refine (and_iff_left fun hcallback hpresence => ?_).symm
      rw [hcallback, hpresence] at hother
      cases hother
    · rename_i hother
      rw [Bool.not_eq_true, Bool.or_eq_false_iff] at hother
      simp [hother.1, hother.2, hsome]

/-- The nearest members are those that no member is nearer than. -/
theorem mem_nearest_iff {α : Type} {rank : α → Nat} {members : List α} {x : α} :
    x ∈ nearest rank members ↔ x ∈ members ∧ ∀ y ∈ members, rank x ≤ rank y := by
  unfold nearest
  split
  · rename_i least hleast
    obtain ⟨hmem, hle⟩ := List.min?_eq_some_iff.1 hleast
    simp only [List.mem_map, forall_exists_index, and_imp, forall_apply_eq_imp_iff₂] at hmem hle
    rw [List.mem_filter, decide_eq_true_eq]
    refine and_congr_right fun hx => ⟨fun heq => heq ▸ hle, fun hall => ?_⟩
    obtain ⟨y, hy, hrank⟩ := hmem
    exact Nat.le_antisymm (hrank ▸ hall y hy) (hle x hx)
  · rename_i hnone
    rw [List.min?_eq_none_iff, List.map_eq_nil_iff] at hnone
    simp [hnone]

theorem mem_apply_inheritance_iff :
    s ∈ inheritance.apply request selected ↔
      s ∈ selected ∧ (request.criteria.required.isCallback = false →
        ∀ source, request.source = some source → ∀ t ∈ selected,
          sourceRank request.table source s.candidate ≤
            sourceRank request.table source t.candidate) := by
  rw [apply_inheritance]
  split
  · rename_i hnone
    simp [hnone]
  · rename_i source hsome
    split
    · rename_i hcallback
      simp [hcallback]
    · rename_i hcallback
      rw [Bool.not_eq_true] at hcallback
      simp [mem_nearest_iff, hcallback, hsome]

/-- If mapping methods are asked for, updates are kept where they are preferred and there are any,
and all others are kept where not. -/
theorem mem_apply_createOrUpdate_iff :
    s ∈ createOrUpdate.apply request selected ↔
      s ∈ selected ∧ (request.criteria.required.any = false →
        (s.candidate.isUpdate = true ↔ request.criteria.prefersUpdate = true ∧
          ∃ t ∈ selected, t.candidate.isUpdate = true)) := by
  have hany : (selected.filter fun t => t.candidate.isUpdate).isEmpty = false ↔
      ∃ t ∈ selected, t.candidate.isUpdate = true := by
    simp
  simp only [apply]
  split
  · rename_i hrequired
    simp [hrequired]
  · rename_i hrequired
    rw [Bool.not_eq_true] at hrequired
    split
    · rename_i hupdate
      rw [Bool.and_eq_true, Bool.not_eq_true', hany] at hupdate
      simp [hrequired, hupdate]
    · rename_i hcreate
      rw [Bool.and_eq_true, Bool.not_eq_true', hany] at hcreate
      simp [hrequired, hcreate]

/-! ## Order -/

/-- A selector keeps the order of the places. -/
theorem index_apply_sublist (selector : Selector) :
    ((selector.apply request selected).map Selected.index).Sublist
      (selected.map Selected.index) := by
  cases selector with
  | type =>
    -- binding goes through the list and leaves out what cannot be bound
    induction selected with
    | nil => exact .slnil
    | cons first rest ih =>
      simp only [apply, List.filterMap_cons] at ih ⊢
      split
      · exact ih.cons _
      · rename_i kept hkept
        obtain ⟨_, -, rfl⟩ := Option.map_eq_some_iff.1 hkept
        exact ih.cons_cons _
  | family => exact List.filter_sublist.map _
  | qualifier => exact List.filter_sublist.map _
  | targetType =>
    simp only [apply]
    split
    · exact .refl _
    · split
      · exact .refl _
      · exact List.filter_sublist.map _
  | inheritance =>
    rw [apply_inheritance]
    unfold nearest
    split
    · exact .refl _
    · split
      · exact .refl _
      · split
        · exact List.filter_sublist.map _
        · exact List.nil_sublist _
  | createOrUpdate =>
    simp only [apply]
    split
    · exact .refl _
    · split <;> exact List.filter_sublist.map _

end Selector

/-! ## The whole choice -/

namespace Request

variable (request : Request) (candidates : List Candidate)

/-- The candidates left after the selectors that look at each by itself. -/
def eligible : List Selected :=
  request.selectBy [.type, .family, .qualifier, .targetType] candidates

variable {request candidates}

theorem mem_eligible_iff {s : Selected} :
    s ∈ request.eligible candidates ↔ s.Eligible request candidates := by
  rw [eligible, selectBy, narrow_eq_foldl]
  simp only [List.foldl_cons, List.foldl_nil]
  rw [Selector.mem_apply_targetType_iff, Selector.mem_apply_qualifier_iff,
    Selector.mem_apply_family_iff, Selector.mem_apply_type_iff, Selected.exists_ofCandidates_iff]
  constructor
  · rintro ⟨⟨⟨⟨hplace, hbound⟩, hfamily⟩, hunqualified, hqualified⟩, hresult⟩
    exact ⟨hplace, hbound, hfamily, hunqualified, hqualified, hresult⟩
  · rintro ⟨hplace, hbound, hfamily, hunqualified, hqualified, hresult⟩
    exact ⟨⟨⟨⟨hplace, hbound⟩, hfamily⟩, hunqualified, hqualified⟩, hresult⟩

theorem mem_inheritance_iff {s : Selected} :
    s ∈ Selector.inheritance.apply request (request.eligible candidates) ↔
      s.Nearest request candidates := by
  simp only [Selector.mem_apply_inheritance_iff, mem_eligible_iff]
  exact ⟨fun ⟨heligible, hleast⟩ => ⟨heligible, hleast⟩,
    fun hnearest => ⟨hnearest.toEligible, hnearest.least⟩⟩

/-- The survivors of the choice. -/
theorem mem_select_iff {s : Selected} :
    s ∈ request.select candidates ↔ s.Chosen request candidates := by
  have hselect : request.select candidates = Selector.createOrUpdate.apply request
      (Selector.inheritance.apply request (request.eligible candidates)) := by
    rw [select, eligible, selectBy, selectBy, narrow_eq_foldl, narrow_eq_foldl]
    rfl
  rw [hselect]
  simp only [Selector.mem_apply_createOrUpdate_iff, mem_inheritance_iff]
  exact ⟨fun ⟨hnearest, hupdates⟩ => ⟨hnearest, hupdates⟩,
    fun hchosen => ⟨hchosen.toNearest, hchosen.updates⟩⟩

variable (request candidates) in
/-- Any chain of selectors keeps the order of the places. -/
theorem index_selectBy_sublist (chain : List Selector) :
    ((request.selectBy chain candidates).map Selected.index).Sublist
      ((Selected.ofCandidates candidates).map Selected.index) := by
  rw [selectBy, narrow_eq_foldl]
  generalize Selected.ofCandidates candidates = selected
  induction chain generalizing selected with
  | nil => exact .refl _
  | cons selector rest ih => exact (ih _).trans (Selector.index_apply_sublist selector)

/-- **The choice is what it means.** What a request leaves of a list of candidates are exactly those
that it is to choose, in their order and none twice. -/
theorem select_exactly (request : Request) (candidates : List Candidate) :
    (request.select candidates).Pairwise (fun s t => s.index < t.index) ∧
      ∀ s, s ∈ request.select candidates ↔ s.Chosen request candidates := by
  refine ⟨?_, fun s => mem_select_iff⟩
  have hplaces := index_selectBy_sublist request candidates Selector.chain
  rw [Selected.index_ofCandidates] at hplaces
  exact List.pairwise_map.1 (List.Pairwise.sublist hplaces List.pairwise_lt_range)

end Request

end BeanMapper
