import BeanMapper.Proofs.Resolution.Calls
import BeanMapper.Proofs.Selection.Ranks
import Mathlib.Order.WellFounded

/-!
# Factories that take the source

Of the factories that are left for a target, those that take the source come first. But the choice
has ranked them before: a factory that takes no source is as near as one that takes the very type of
the source, and nearer than one that takes a supertype or a type variable, which is then no longer
there to come first. `factory_takesSource_iff` says when the source is passed over, and
`Letters.not_always_taken` is a letter that is made blank although it could be made of a note.
-/

namespace BeanMapper

namespace Resolver

variable {resolver : Resolver} {target source : Ty} {context : List Parameter} {s : Selected}

/-- The demand for a factory that creates a target while a source is at hand. -/
def creation (target source : Ty) (context : List Parameter) : Demand where
  source := some source
  target := target
  criteria := .objectFactory
  context := context

/-- A factory can create a target while a source is at hand: its parameters are bound, its result
fits, and no qualifier keeps it apart. -/
def CanCreate (resolver : Resolver) (target source : Ty) (context : List Parameter)
    (s : Selected) : Prop :=
  s.Eligible (resolver.request (creation target source context)) resolver.candidates

/-- An answer takes the source, or several factories could. -/
inductive TakesSource : Except ResolutionError (Option Reference) → Prop where
  | taken {reference : Reference} (h : 0 < reference.call.sourceCount) :
    TakesSource (.ok (some reference))
  | contested (source target : Ty) (candidates : List String) :
    TakesSource (.error (.ambiguous source target candidates))

/-- The factories that are left are the nearest. -/
theorem mem_select_creation_iff :
    s ∈ resolver.select (creation target source context) ↔
      resolver.CanCreate target source context s ∧
        ∀ t, resolver.CanCreate target source context t →
          Selector.sourceRank resolver.table source s.candidate ≤
            Selector.sourceRank resolver.table source t.candidate := by
  rw [select, Request.mem_select_iff]
  constructor
  · exact fun hchosen => ⟨hchosen.toEligible, hchosen.least rfl source rfl⟩
  · rintro ⟨hcreate, hleast⟩
    exact {
      toEligible := hcreate
      least := by
        rintro - other hother t ht
        cases hother
        exact hleast t ht
      updates := nofun }

/-- Nothing is nearer than a factory that takes no source, or the type of the source itself. -/
theorem mem_select_creation_of_near (hcreate : resolver.CanCreate target source context s)
    (hnear : s.candidate.sources = [] ∨ s.candidate.TakesItself source) :
    s ∈ resolver.select (creation target source context) := by
  refine mem_select_creation_iff.2 ⟨hcreate, fun t _ => ?_⟩
  rw [Selector.sourceRank_eq_zero_iff.2 hnear]
  exact Nat.zero_le _

/-- If a factory can create the target, some factory is left. -/
theorem exists_mem_select_creation {t : Selected}
    (ht : resolver.CanCreate target source context t) :
    ∃ s, s ∈ resolver.select (creation target source context) := by
  obtain ⟨s, hs, hleast⟩ := WellFounded.has_min
    (measure fun s : Selected => Selector.sourceRank resolver.table source s.candidate).wf
    {s | resolver.CanCreate target source context s} ⟨t, ht⟩
  exact ⟨s, mem_select_creation_iff.2 ⟨hs, fun t ht => Nat.le_of_not_lt (hleast t ht)⟩⟩

/-- The reference to a factory receives the source as often as the factory takes it. -/
theorem sourceCount_refer {demand : Demand} (hs : s ∈ resolver.select demand) :
    (resolver.refer s).call.sourceCount = s.candidate.sources.length :=
  (answers_of_mem_select hs).sourceCount_eq resolver.mapper

/-- Of factories that all take the source, any answer takes it. -/
theorem takesSource_of_taking {demand : Demand} {taking : List Selected}
    (hne : taking ≠ []) (hselected : ∀ s ∈ taking, s ∈ resolver.select demand)
    (htakes : ∀ s ∈ taking, s.candidate.sources ≠ []) :
    TakesSource ((single demand taking).map (Option.map resolver.refer)) := by
  match taking with
  | [] => exact absurd rfl hne
  | [s] =>
    refine .taken ?_
    rw [sourceCount_refer (hselected s (by simp))]
    exact List.length_pos_of_ne_nil (htakes s (by simp))
  | _ :: _ :: _ => exact .contested _ _ _

/-- Of factories of which none takes the source, one alone does not take it. -/
theorem takesSource_select_iff {demand : Demand} (hne : resolver.select demand ≠ [])
    (hbare : ∀ s ∈ resolver.select demand, s.candidate.sources = []) :
    TakesSource ((single demand (resolver.select demand)).map (Option.map resolver.refer)) ↔
      ¬∃! s, s ∈ resolver.select demand := by
  rcases hselected : resolver.select demand with _ | ⟨first, _ | ⟨second, rest⟩⟩
  · exact absurd hselected hne
  · refine iff_of_false (fun htakes => ?_) (not_not_intro ⟨first, by simp, by simp⟩)
    have hfirst : first ∈ resolver.select demand := by simp [hselected]
    cases htakes with
    | taken hpos =>
      rw [sourceCount_refer hfirst, hbare first hfirst] at hpos
      exact Nat.lt_irrefl 0 hpos
  · refine iff_of_true (.contested _ _ _) ?_
    rintro ⟨s, -, honly⟩
    have hplaces := (Request.select_exactly (resolver.request demand) resolver.candidates).1
    rw [← select, hselected] at hplaces
    have hlt : first.index < second.index := (List.pairwise_cons.1 hplaces).1 second (by simp)
    rw [honly first (by simp), honly second (by simp)] at hlt
    exact Nat.lt_irrefl _ hlt

/-- The factories that are left and take the source. -/
def takers (resolver : Resolver) (demand : Demand) : List Selected :=
  (resolver.select demand).filter fun s => !s.candidate.sources.isEmpty

theorem mem_takers_iff {demand : Demand} :
    s ∈ resolver.takers demand ↔ s ∈ resolver.select demand ∧ s.candidate.sources ≠ [] := by
  simp [takers]

/-- A factory that is left and takes the source takes its very type, unless all factories take it. -/
theorem takesItself_of_mem_takers (hs : s ∈ resolver.takers (creation target source context)) :
    (resolver.CanCreate target source context s ∧ s.candidate.TakesItself source) ∨
      ∀ t, resolver.CanCreate target source context t → t.candidate.sources ≠ [] := by
  obtain ⟨hselected, hsources⟩ := mem_takers_iff.1 hs
  obtain ⟨hcreate, hleast⟩ := mem_select_creation_iff.1 hselected
  by_cases hzero : Selector.sourceRank resolver.table source s.candidate = 0
  · exact Or.inl ⟨hcreate, (Selector.sourceRank_eq_zero_iff.1 hzero).resolve_left hsources⟩
  · refine Or.inr fun t ht hnone => ?_
    have hle := hleast t ht
    rw [Selector.sourceRank_eq_zero_iff.2 (Or.inl hnone)] at hle
    omega

/-- If none that is left takes the source, then all that take none are left. -/
theorem mem_select_creation_of_takers_nil
    (hempty : resolver.takers (creation target source context) = []) :
    s ∈ resolver.select (creation target source context) ↔
      resolver.CanCreate target source context s ∧ s.candidate.sources = [] := by
  constructor
  · intro hs
    refine ⟨(mem_select_creation_iff.1 hs).1, ?_⟩
    by_contra hsources
    have hmem := mem_takers_iff.2 ⟨hs, hsources⟩
    rw [hempty] at hmem
    cases hmem
  · rintro ⟨hcreate, hnone⟩
    exact mem_select_creation_of_near hcreate (Or.inl hnone)

theorem factory_eq_single (resolver : Resolver) (target source : Ty) (context : List Parameter) :
    resolver.factory target (some source) context =
      (single (creation target source context)
        (if (resolver.takers (creation target source context)).isEmpty then
          resolver.select (creation target source context)
        else resolver.takers (creation target source context))).map
        (Option.map resolver.refer) := by
  have hchosen : ∀ selected taking : List Selected,
      (if (some source).isSome && !taking.isEmpty then taking else selected) =
        if taking.isEmpty then selected else taking := by
    intro selected taking
    cases taking <;> rfl
  rw [factory, hchosen]
  exact bind_pure_comp _ _

/-- **Factories that take the source win, if one takes the type of the source itself.** If some
factory for a target takes the source, then the answer takes it, or is an ambiguity, exactly if one
takes the type of the source itself, or not exactly one takes no source at all. -/
theorem factory_takesSource_iff (resolver : Resolver) (target source : Ty)
    (context : List Parameter)
    (htaking : ∃ t, resolver.CanCreate target source context t ∧ t.candidate.sources ≠ []) :
    TakesSource (resolver.factory target (some source) context) ↔
      (∃ t, resolver.CanCreate target source context t ∧ t.candidate.TakesItself source) ∨
        ¬∃! s, resolver.CanCreate target source context s ∧ s.candidate.sources = [] := by
  obtain ⟨t, ht, -⟩ := htaking
  obtain ⟨nearest, hnearest⟩ := exists_mem_select_creation ht
  rw [factory_eq_single]
  split
  · rename_i hempty
    have hselected := fun s =>
      mem_select_creation_of_takers_nil (s := s) (List.isEmpty_iff.1 hempty)
    -- one that takes the very type of the source would be left and win
    have hitself : ¬∃ t, resolver.CanCreate target source context t ∧
        t.candidate.TakesItself source := by
      rintro ⟨t, hcreate, htakes⟩
      have hnone := ((hselected t).1 (mem_select_creation_of_near hcreate (Or.inr htakes))).2
      obtain ⟨parameter, hhead, -⟩ := htakes
      rw [hnone] at hhead
      cases hhead
    rw [takesSource_select_iff (List.ne_nil_of_mem hnearest) fun s hs => ((hselected s).1 hs).2,
      or_iff_right hitself]
    simp only [hselected]
  · rename_i hempty
    have hne := mt List.isEmpty_iff.2 hempty
    refine iff_of_true (takesSource_of_taking hne (fun s hs => (mem_takers_iff.1 hs).1)
      fun s hs => (mem_takers_iff.1 hs).2) ?_
    obtain ⟨s, hs⟩ := List.exists_mem_of_ne_nil _ hne
    rcases takesItself_of_mem_takers hs with hitself | hall
    · exact Or.inl ⟨s, hitself⟩
    · refine Or.inr ?_
      rintro ⟨bare, ⟨hbare, hnone⟩, -⟩
      exact hall bare hbare hnone

end Resolver

/-! ## Letters -/

namespace Letters

/-- A memo is a note. -/
def classes : ClassTable := .declareAll {} [
  .plain "post.Note", (ClassDecl.plain "post.Memo").generic [] ["post.Note"],
  .plain "post.Letter"]

def making (name : String) (parameters : List Parameter) : Candidate where
  name
  parameters
  returnType := .named "post.Letter"
  owner := some (.named "post.LetterMapper")
  flags := Family.objectFactory.flags

def blank : Candidate := making "blank" []

def ofMemo : Candidate := making "ofMemo" [{ name := "memo", ty := .named "post.Memo" }]

def ofNote : Candidate := making "ofNote" [{ name := "note", ty := .named "post.Note" }]

def resolver (candidates : List Candidate) : Resolver where
  table := classes
  mapper := .named "post.LetterMapper"
  candidates

/-- The factories of a list that can make a letter where a memo is at hand. -/
def able (candidates : List Candidate) : List Selected :=
  ((resolver candidates).request (Resolver.creation (.named "post.Letter") (.named "post.Memo")
    [])).eligible candidates

theorem canCreate_of_able (candidates : List Candidate) (p : Candidate → Prop)
    (h : ∃ t ∈ able candidates, p t.candidate) : ∃ t, (resolver candidates).CanCreate
      (.named "post.Letter") (.named "post.Memo") [] t ∧ p t.candidate := by
  obtain ⟨t, ht, hp⟩ := h
  exact ⟨t, Request.mem_eligible_iff.1 ht, hp⟩

/-- A letter is made of a memo, not blank, by the factory for memos. -/
theorem factory_takesSource_memo :
    (∃ t, (resolver [blank, ofMemo]).CanCreate (.named "post.Letter") (.named "post.Memo") [] t ∧
        t.candidate.sources ≠ []) ∧
      Resolver.TakesSource ((resolver [blank, ofMemo]).factory (.named "post.Letter")
        (some (.named "post.Memo")) []) := by
  have htaking := canCreate_of_able [blank, ofMemo] (·.sources ≠ []) (by decide +kernel)
  have hitself := canCreate_of_able [blank, ofMemo] (Candidate.TakesItself (.named "post.Memo"))
    (by decide +kernel)
  exact ⟨htaking, (Resolver.factory_takesSource_iff _ _ _ _ htaking).2 (Or.inl hitself)⟩

/-- A letter is made blank, although a factory could make it of the note that the memo is. -/
theorem not_always_taken : ¬∀ (resolver : Resolver) (target source : Ty)
    (context : List Parameter),
    (∃ t, resolver.CanCreate target source context t ∧ t.candidate.sources ≠ []) →
      Resolver.TakesSource (resolver.factory target (some source) context) := by
  intro hall
  have htaking := canCreate_of_able [blank, ofNote] (·.sources ≠ []) (by decide +kernel)
  have htakes := hall _ _ _ _ htaking
  have hselected : (resolver [blank, ofNote]).select
      (Resolver.creation (.named "post.Letter") (.named "post.Memo") []) =
        [{ index := 0, candidate := blank }] := by
    decide +kernel
  rw [Resolver.factory_eq_single, Resolver.takers, hselected] at htakes
  cases htakes with
  | taken hpos => exact absurd hpos (by decide)

end Letters

end BeanMapper
