import BeanMapper.Mapper.Generated
import BeanMapper.Proofs.Selection.Order

/-!
# Resolution does not depend on the order of the methods

Two resolvers with the same methods in another order give the same answers and the same errors,
where the methods of an ambiguity may come in another order: their outcomes `Agree`. A method is
recognized by its place in the list, so each step is compared along a renumbering of the places
(`selectExact_renumbered`); the answers have no places in them, and so `resolution_agrees`.
-/

namespace BeanMapper

/-! ## Outcomes that agree -/

/-- The same error, with the methods of an ambiguity in any order. -/
inductive ResolutionError.Same : ResolutionError → ResolutionError → Prop where
  | noMatch (source target : Ty) : Same (.noMatch source target) (.noMatch source target)
  | ambiguous (source target : Ty) {names others : List String} (h : names.Perm others) :
    Same (.ambiguous source target names) (.ambiguous source target others)

theorem ResolutionError.Same.refl (e : ResolutionError) : e.Same e := by
  cases e with
  | noMatch source target => exact .noMatch source target
  | ambiguous source target names => exact .ambiguous source target (.refl names)

/-- Related answers, or the same error. -/
inductive Agree {α β : Type} (R : α → β → Prop) :
    Except ResolutionError α → Except ResolutionError β → Prop where
  | ok {a : α} {b : β} (h : R a b) : Agree R (.ok a) (.ok b)
  | error {e f : ResolutionError} (h : e.Same f) : Agree R (.error e) (.error f)

namespace Agree

variable {α β γ δ : Type} {R : α → β → Prop} {S : γ → δ → Prop}

theorem inv {x : Except ResolutionError α} {y : Except ResolutionError β} (h : Agree R x y) :
    (∃ a b, R a b ∧ x = .ok a ∧ y = .ok b) ∨
      ∃ e f, e.Same f ∧ x = .error e ∧ y = .error f := by
  cases h with
  | ok h => exact Or.inl ⟨_, _, h, rfl, rfl⟩
  | error h => exact Or.inr ⟨_, _, h, rfl, rfl⟩

theorem bind {x : Except ResolutionError α} {y : Except ResolutionError β}
    {next : α → Except ResolutionError γ} {other : β → Except ResolutionError δ}
    (h : Agree R x y) (hnext : ∀ a b, R a b → Agree S (next a) (other b)) :
    Agree S (x >>= next) (y >>= other) := by
  cases h with
  | ok h => exact hnext _ _ h
  | error h => exact .error h

theorem map (g : α → β) (x : Except ResolutionError α) :
    Agree (fun a b => b = g a) x (x.map g) := by
  cases x with
  | ok a => exact .ok rfl
  | error e => exact .error (.refl e)

theorem refl (x : Except ResolutionError α) : Agree Eq x x := by
  cases x with
  | ok a => exact .ok rfl
  | error e => exact .error (.refl e)

end Agree

/-- What a list with the same members has where one has nothing, one member or several. -/
theorem perm_map_cases {α β : Type} {g : α → β} {xs : List α} {ys : List β}
    (h : ys.Perm (xs.map g)) :
    (xs = [] ∧ ys = []) ∨ (∃ x, xs = [x] ∧ ys = [g x]) ∨
      ∃ x x' xs' y y' ys', xs = x :: x' :: xs' ∧ ys = y :: y' :: ys' := by
  cases xs with
  | nil => exact Or.inl ⟨rfl, h.eq_nil⟩
  | cons x xs =>
    cases xs with
    | nil => exact Or.inr (Or.inl ⟨x, rfl, List.perm_singleton.1 h⟩)
    | cons x' xs' =>
      have hlength := h.length_eq
      cases ys with
      | nil => cases hlength
      | cons y ys =>
        cases ys with
        | nil => cases hlength
        | cons y' ys' => exact Or.inr (Or.inr ⟨x, x', xs', y, y', ys', rfl, rfl⟩)

namespace Resolver

variable {resolver : Resolver} {f : Nat → Nat} {others : List Candidate} {source : Ty}
  {demand : Demand} {argument : Assignment}

/-! ## Choosing methods -/

def withCandidates (resolver : Resolver) (others : List Candidate) : Resolver :=
  { resolver with candidates := others }

/-- The chosen method, if there is one, under another number. -/
def Renumbers (f : Nat → Nat) (chosen other : Option Selected) : Prop :=
  other = chosen.map (.renumber f)

theorem select_renumbered (h : Renumbered f resolver.candidates others) (demand : Demand) :
    ((resolver.withCandidates others).select demand).Perm
      ((resolver.select demand).map (.renumber f)) :=
  Request.select_perm h

theorem single_agrees {selected members : List Selected}
    (h : members.Perm (selected.map (.renumber f))) :
    Agree (Renumbers f) (single demand selected) (single demand members) := by
  have htexts := (h.map fun s => s.candidate.text).symm
  rw [List.map_map] at htexts
  obtain ⟨rfl, rfl⟩ | ⟨s, rfl, rfl⟩ | ⟨s, s', rest, m, m', rest', rfl, rfl⟩ := perm_map_cases h
  · exact .ok rfl
  · exact .ok rfl
  · exact .error (.ambiguous _ _ htexts)

theorem selectUnique_agrees (h : Renumbered f resolver.candidates others) (demand : Demand) :
    Agree (Renumbers f) (resolver.selectUnique demand)
      ((resolver.withCandidates others).selectUnique demand) :=
  single_agrees (select_renumbered h demand)

/-- A method that alone answers a demand does so at its other place. -/
theorem selectExact_renumbered (h : Renumbered f resolver.candidates others) (index : Nat)
    (demand : Demand) :
    (resolver.withCandidates others).selectExact (f index) demand =
      (resolver.selectExact index demand).map (.renumber f) := by
  unfold selectExact
  obtain ⟨hs, hm⟩ | ⟨s, hs, hm⟩ | ⟨_, _, _, _, _, _, hs, hm⟩ :=
    perm_map_cases (select_renumbered h demand)
  · rw [hs, hm]
    rfl
  · rw [hs, hm]
    have hindex : (s.renumber f).index = f index ↔ s.index = index := h.1.eq_iff
    simp only [hindex]
    split <;> rfl
  · rw [hs, hm]
    rfl

/-! ## Two steps -/

theorem steps_renumbered (h : Renumbered f resolver.candidates others) :
    (resolver.withCandidates others).steps.Perm (resolver.steps.map (.renumber f)) := by
  have hperm := h.2.filter fun s => isStep s.candidate
  rw [List.filter_map] at hperm
  exact hperm

/-- The steps through a method first are the same if it is chosen for the first step at its other
place and the second step is chosen alike. -/
theorem afterMethod_of_exact (first : Selected)
    (hinner : (resolver.withCandidates others).selectExact (f first.index)
        { demand with target := first.candidate.returnType, criteria := .mapping } =
      (resolver.selectExact first.index
        { demand with target := first.candidate.returnType, criteria := .mapping }).map
        (.renumber f))
    (houter : Agree (Renumbers f)
      (resolver.selectUnique { demand with source := some first.candidate.returnType })
      ((resolver.withCandidates others).selectUnique
        { demand with source := some first.candidate.returnType })) :
    (resolver.withCandidates others).afterMethod? demand argument (first.renumber f) =
      resolver.afterMethod? demand argument first := by
  unfold afterMethod?
  dsimp only [Selected.renumber]
  split
  · rfl
  · rw [hinner]
    cases resolver.selectExact first.index
        { demand with target := first.candidate.returnType, criteria := .mapping } with
    | none => rfl
    | some inner =>
      simp only [Option.map_some, Option.bind_eq_bind, Option.bind_some]
      obtain ⟨outer, _, rfl, ho, hother⟩ | ⟨e, e', -, ho, hother⟩ := houter.inv
      · rw [ho, hother]
        cases outer <;> rfl
      · rw [ho, hother]

/-- The steps to a method through a conversion are the same if it is chosen at its other place. -/
theorem afterConversion_of_exact (step : Selected)
    (hexact : ∀ ty, (resolver.withCandidates others).selectExact (f step.index)
        { demand with source := some ty } =
      (resolver.selectExact step.index { demand with source := some ty }).map (.renumber f)) :
    (resolver.withCandidates others).afterConversion? source demand argument (step.renumber f) =
      resolver.afterConversion? source demand argument step := by
  unfold afterConversion?
  dsimp only [Selected.renumber]
  refine Option.bind_congr fun parameter _ => Option.bind_congr fun conversion _ => ?_
  rw [hexact]
  exact Option.bind_map ..

/-- The steps from a method through a conversion are the same if it is chosen at its other place. -/
theorem beforeConversion_of_exact (step : Selected)
    (hexact : (resolver.withCandidates others).selectExact (f step.index)
        { demand with target := step.candidate.returnType } =
      (resolver.selectExact step.index { demand with target := step.candidate.returnType }).map
        (.renumber f)) :
    (resolver.withCandidates others).beforeConversion? demand argument (step.renumber f) =
      resolver.beforeConversion? demand argument step := by
  unfold beforeConversion?
  dsimp only [Selected.renumber]
  refine Option.bind_congr fun conversion _ => ?_
  rw [hexact]
  exact Option.bind_map ..

theorem afterMethod_renumbered (h : Renumbered f resolver.candidates others) (first : Selected) :
    (resolver.withCandidates others).afterMethod? demand argument (first.renumber f) =
      resolver.afterMethod? demand argument first :=
  afterMethod_of_exact first (selectExact_renumbered h _ _) (selectUnique_agrees h _)

theorem afterConversion_renumbered (h : Renumbered f resolver.candidates others)
    (step : Selected) :
    (resolver.withCandidates others).afterConversion? source demand argument (step.renumber f) =
      resolver.afterConversion? source demand argument step :=
  afterConversion_of_exact step fun _ => selectExact_renumbered h _ _

theorem beforeConversion_renumbered (h : Renumbered f resolver.candidates others)
    (step : Selected) :
    (resolver.withCandidates others).beforeConversion? demand argument (step.renumber f) =
      resolver.beforeConversion? demand argument step :=
  beforeConversion_of_exact step (selectExact_renumbered h _ _)

/-- Ways that do not depend on numbers are the same up to order. -/
theorem ways_perm (h : Renumbered f resolver.candidates others)
    {way other : Selected → Option (String × Assignment)}
    (hway : ∀ s, other (s.renumber f) = way s) :
    ((resolver.withCandidates others).steps.filterMap other).Perm
      (resolver.steps.filterMap way) := by
  have hperm := (steps_renumbered h).filterMap other
  rwa [List.filterMap_map, show other ∘ Selected.renumber f = way from funext hway] at hperm

theorem onlyWay_agrees {ways others : List (String × Assignment)} (h : others.Perm ways) :
    Agree Eq (onlyWay source demand ways) (onlyWay source demand others) := by
  have htexts := (h.map Prod.fst).symm
  rw [← List.map_id ways] at h
  obtain ⟨rfl, rfl⟩ | ⟨way, rfl, rfl⟩ | ⟨w, w', rest, o, o', rest', rfl, rfl⟩ := perm_map_cases h
  · exact .ok rfl
  · exact .ok rfl
  · exact .error (.ambiguous _ _ htexts)

theorem twoSteps_agrees (h : Renumbered f resolver.candidates others) :
    Agree Eq (resolver.twoSteps source demand argument)
      ((resolver.withCandidates others).twoSteps source demand argument) := by
  unfold twoSteps
  dsimp only
  refine (onlyWay_agrees (ways_perm h (afterMethod_renumbered h))).bind ?_
  rintro way _ rfl
  cases way with
  | some way => exact .ok rfl
  | none =>
    refine (onlyWay_agrees (ways_perm h (afterConversion_renumbered h))).bind ?_
    rintro way _ rfl
    cases way with
    | some way => exact .ok rfl
    | none => exact onlyWay_agrees (ways_perm h (beforeConversion_renumbered h))

/-! ## Resolution -/

theorem twoSteps_or_agrees (h : Renumbered f resolver.candidates others) (source target : Ty) :
    Agree Eq
      (do match ← resolver.twoSteps source demand argument with
        | some assignment => return assignment
        | none => throw (.noMatch source target))
      (do match ← (resolver.withCandidates others).twoSteps source demand argument with
        | some assignment => return assignment
        | none => throw (.noMatch source target)) := by
  refine (twoSteps_agrees h).bind ?_
  rintro way _ rfl
  cases way with
  | some way => exact .ok rfl
  | none => exact .error (.noMatch _ _)

theorem resolve_renumbered (h : Renumbered f resolver.candidates others) (value : SourceValue)
    (presence : Presence) (target : Ty) (criteria : Criteria) (context : List Parameter) :
    Agree Eq (resolver.resolve value presence target criteria context)
      ((resolver.withCandidates others).resolve value presence target criteria context) := by
  unfold resolve
  dsimp only
  refine (selectUnique_agrees h _).bind ?_
  rintro chosen _ rfl
  cases chosen with
  | some selected => exact .ok rfl
  | none =>
    dsimp only [Option.map_none]
    -- the ways without a declared method do not see the candidates
    split
    · exact twoSteps_or_agrees h _ _
    · refine (Agree.refl (resolver.unqualified _ _ _)).bind ?_
      rintro simple _ rfl
      cases simple with
      | some assignment => exact .ok rfl
      | none => exact twoSteps_or_agrees h _ _

/-- The factories that take the source come first in every order. -/
theorem takingFirst_renumbered {selected members : List Selected} (hasSource : Bool)
    (h : members.Perm (selected.map (.renumber f))) :
    let taking (selected : List Selected) :=
      selected.filter fun s => !s.candidate.sources.isEmpty
    (if hasSource && !(taking members).isEmpty then taking members else members).Perm
      ((if hasSource && !(taking selected).isEmpty then taking selected else selected).map
        (.renumber f)) := by
  intro taking
  have htaking : (taking members).Perm ((taking selected).map (.renumber f)) := by
    have hfilter := h.filter fun s => !s.candidate.sources.isEmpty
    rwa [List.filter_map] at hfilter
  rw [htaking.isEmpty_eq, List.isEmpty_map]
  split
  · exact htaking
  · exact h

theorem factory_renumbered (h : Renumbered f resolver.candidates others) (target : Ty)
    (source : Option Ty) (context : List Parameter) :
    Agree Eq (resolver.factory target source context)
      ((resolver.withCandidates others).factory target source context) := by
  unfold factory
  refine (single_agrees (takingFirst_renumbered _ (select_renumbered h _))).bind ?_
  rintro chosen _ rfl
  rw [Option.map_map]
  exact .ok rfl

theorem presenceCheck_renumbered (h : Renumbered f resolver.candidates others) (source : Ty)
    (context : List Parameter) :
    Agree Eq (resolver.presenceCheck source context)
      ((resolver.withCandidates others).presenceCheck source context) := by
  unfold presenceCheck
  refine (selectUnique_agrees h _).bind ?_
  rintro chosen _ rfl
  rw [Option.map_map]
  exact .ok rfl

/-- The same methods in another order map the same values in the same way, create the same targets
by the same factory and check presence by the same method, or fail with the same error. -/
theorem resolution_agrees (h : resolver.candidates.Perm others) :
    (∀ value presence target criteria context,
      Agree Eq (resolver.resolve value presence target criteria context)
        ((resolver.withCandidates others).resolve value presence target criteria context)) ∧
    (∀ target source context,
      Agree Eq (resolver.factory target source context)
        ((resolver.withCandidates others).factory target source context)) ∧
    ∀ source context,
      Agree Eq (resolver.presenceCheck source context)
        ((resolver.withCandidates others).presenceCheck source context) := by
  obtain ⟨f, hf⟩ := exists_renumbering h
  exact ⟨resolve_renumbered hf, factory_renumbered hf, presenceCheck_renumbered hf⟩

end Resolver

/-! ## Two ways to pack -/

namespace Packing

/-- A method of the shop that puts an item into a box. -/
def packer (name : String) : Candidate where
  name := name
  parameters := [{ name := "item", ty := .named "shop.Item" }]
  returnType := .named "shop.Box"
  owner := some (.named "shop.Mapper")

/-- A mapper that can wrap an item and can stuff it into its box. -/
def resolver : Resolver where
  table := .declareAll {} [.plain "shop.Item", .plain "shop.Box"]
  mapper := .named "shop.Mapper"
  candidates := [packer "wrap", packer "stuff"]

/-- Whichever is declared first, neither is chosen. -/
theorem resolution_agrees_packing : resolver.candidates.Perm [packer "stuff", packer "wrap"] ∧
    resolver.resolve (.ofParameter "item" (.named "shop.Item")) .unchecked (.named "shop.Box")
        .mapping [] =
      .error (.ambiguous (.named "shop.Item") (.named "shop.Box")
        ["Box Mapper.wrap(Item item)", "Box Mapper.stuff(Item item)"]) ∧
    ∃ names, names.Perm ["Box Mapper.wrap(Item item)", "Box Mapper.stuff(Item item)"] ∧
      (resolver.withCandidates [packer "stuff", packer "wrap"]).resolve
          (.ofParameter "item" (.named "shop.Item")) .unchecked (.named "shop.Box") .mapping [] =
        .error (.ambiguous (.named "shop.Item") (.named "shop.Box") names) := by
  have hperm : resolver.candidates.Perm [packer "stuff", packer "wrap"] := .swap _ _ _
  have herror : resolver.resolve (.ofParameter "item" (.named "shop.Item")) .unchecked
      (.named "shop.Box") .mapping [] = .error (.ambiguous (.named "shop.Item") (.named "shop.Box")
        ["Box Mapper.wrap(Item item)", "Box Mapper.stuff(Item item)"]) := by rfl
  refine ⟨hperm, herror, ?_⟩
  have hagree := (Resolver.resolution_agrees hperm).1 (.ofParameter "item" (.named "shop.Item"))
    .unchecked (.named "shop.Box") .mapping []
  rw [herror] at hagree
  obtain ⟨a, b, -, he, -⟩ | ⟨e, e', hsame, he, hother⟩ := hagree.inv
  · cases he
  · cases he
    cases hsame with
    | ambiguous _ _ h => exact ⟨_, h.symm, hother⟩

end Packing

/-! ## Mappers -/

namespace MapperDecl

variable {mapper other : MapperDecl}

theorem candidates_perm (hm : mapper.methods.Perm other.methods)
    (hu : mapper.usedMappers.Perm other.usedMappers) :
    mapper.candidates.Perm other.candidates :=
  (hm.append (hu.flatMap_right UsedMapper.methods)).map Method.candidate

/-- Neither the order in which a mapper declares its methods nor that of the mappers it uses matters
to what its generated methods call. -/
theorem resolve_agrees (hty : other.ty = mapper.ty) (hm : mapper.methods.Perm other.methods)
    (hu : mapper.usedMappers.Perm other.usedMappers) (table : ClassTable) (settings : Settings)
    (value : SourceValue) (presence : Presence) (target : Ty) (criteria : Criteria)
    (context : List Parameter) :
    Agree Eq ((mapper.generator table settings).resolve value presence target criteria context)
      ((other.generator table settings).resolve value presence target criteria context) := by
  obtain ⟨f, hf⟩ := exists_renumbering (candidates_perm hm hu)
  have hother : (other.generator table settings).toResolver =
      (mapper.generator table settings).toResolver.withCandidates other.candidates := by
    rw [generator, generator, hty]
    rfl
  rw [hother]
  exact Resolver.resolve_renumbered hf value presence target criteria context

end MapperDecl

end BeanMapper
