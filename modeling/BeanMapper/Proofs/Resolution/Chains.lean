import BeanMapper.Proofs.Resolution.Ways
import BeanMapper.Proofs.Selection.Exact
import Mathlib.Data.Finset.Card

/-!
# Two methods in a row

A chain of two methods is found only if each of them alone answers its step: a step that several
methods answer is passed over, so an ambiguity inside of a chain is no error but hides the chain.
`chains_ambiguous` says what is left: chains whose steps nobody contests are never chosen from
silently, and resolution is ambiguous in this stage exactly if two first methods lead on.
-/

namespace BeanMapper

namespace Demand

/-- What is asked of methods for a value. -/
def ofValue (value : SourceValue) (target : Ty) (criteria : Criteria)
    (context : List Parameter) : Demand where
  source := some value.ty
  target := target
  criteria := criteria
  context := context

/-- What is asked of the first method of a chain. -/
def toBetween (demand : Demand) (first : Selected) : Demand :=
  { demand with target := first.candidate.returnType, criteria := .mapping }

/-- What is asked of the second method of a chain. -/
def fromBetween (demand : Demand) (first : Selected) : Demand :=
  { demand with source := some first.candidate.returnType }

end Demand

namespace Resolver

variable {resolver : Resolver} {source : Ty} {demand : Demand} {argument : Assignment}
  {f g f' g' : Selected}

/-! ## Chains -/

/-- Two steps in a row: the first takes exactly the source, the second takes exactly what the first
returns, returns exactly the target and is as the criteria say. -/
structure Chain (resolver : Resolver) (demand : Demand) (f g : Selected) : Prop where
  first : f ∈ resolver.steps
  second : g ∈ resolver.steps
  apart : f.candidate.returnType ≠ demand.target
  suits_first : (resolver.request (demand.toBetween f)).Suits f.candidate
  suits_second : (resolver.request (demand.fromBetween f)).Suits g.candidate
  returns : g.candidate.returnType = demand.target

/-- Plain methods without qualifiers are a chain where the criteria ask for nothing. -/
theorem Chain.of_plain {between : Ty} (hf : f ∈ resolver.steps) (hg : g ∈ resolver.steps)
    (hpf : f.candidate.Plain source between) (hpg : g.candidate.Plain between demand.target)
    (hqf : f.candidate.qualifiers = []) (hqg : g.candidate.qualifiers = [])
    (hsource : demand.source = some source) (hcriteria : demand.criteria = .mapping)
    (hne : between ≠ demand.target) : resolver.Chain demand f g := by
  obtain rfl := hpf.returns
  have hsecond : (resolver.request (demand.fromBetween f)).criteria = .mapping := hcriteria
  refine ⟨hf, hg, hne, ?_, ?_, hpg.returns⟩
  · exact hpf.suits hsource rfl hqf
  · exact hpg.suits rfl hsecond hqg

/-- No other method answers either step of a chain through a first method. -/
def Uncontested (resolver : Resolver) (demand : Demand) (f : Selected) : Prop :=
  (resolver.select (demand.toBetween f)).length = 1 ∧
    (resolver.select (demand.fromBetween f)).length = 1

/-- A method leads on: it alone answers the step to what it returns, which is not the target yet,
and one method alone answers the step from there. -/
def LeadsOn (resolver : Resolver) (demand : Demand) (f : Selected) : Prop :=
  f.candidate.returnType ≠ demand.target ∧
    (∃ inner, resolver.select (demand.toBetween f) = [inner] ∧ inner.index = f.index) ∧
    ∃ outer, resolver.select (demand.fromBetween f) = [outer]

def chainText (f g : Selected) : String := g.candidate.text ++ " after " ++ f.candidate.text

def chains (resolver : Resolver) (demand : Demand) (argument : Assignment) :
    List (String × Assignment) :=
  resolver.steps.filterMap (resolver.afterMethod? demand argument)

/-! ## Places of steps -/

theorem steps_index_nodup (resolver : Resolver) :
    (resolver.steps.map Selected.index).Nodup := by
  have hall : (Selected.ofCandidates resolver.candidates).map Selected.index =
      List.range' 0 resolver.candidates.length := by
    rw [Selected.ofCandidates, List.map_map]
    exact List.zipIdx_map_snd 0 _
  have hnodup : ((Selected.ofCandidates resolver.candidates).map Selected.index).Nodup := by
    rw [hall]
    exact List.nodup_range'
  exact hnodup.sublist (List.filter_sublist.map _)

/-- A step is known by its place. -/
theorem eq_of_mem_steps (hf : f ∈ resolver.steps) (hf' : f' ∈ resolver.steps)
    (h : f.index = f'.index) : f = f' :=
  List.inj_on_of_nodup_map resolver.steps_index_nodup hf hf' h

/-! ## Methods that lead on -/

theorem selectUnique_eq_some_iff {s : Selected} :
    resolver.selectUnique demand = .ok (some s) ↔ resolver.select demand = [s] :=
  ⟨single_some, fun h => by rw [selectUnique, h]; rfl⟩

/-- What is found from a first method, if it leads on. -/
theorem afterMethod_eq_some_iff {way : String × Assignment} :
    resolver.afterMethod? demand argument f = some way ↔
      f.candidate.returnType ≠ demand.target ∧ ∃ inner outer,
        resolver.select (demand.toBetween f) = [inner] ∧ inner.index = f.index ∧
          resolver.select (demand.fromBetween f) = [outer] ∧
          (chainText f outer, resolver.call outer (resolver.call inner argument)) = way := by
  unfold afterMethod?
  dsimp only
  split
  · rename_i htarget
    simp [htarget]
  · rename_i hne
    simp only [Option.bind_eq_bind, Option.bind_eq_some_iff, selectExact_eq_some_iff]
    constructor
    · rintro ⟨inner, ⟨hi, hindex⟩, hway⟩
      split at hway
      · rename_i outer ho
        exact ⟨hne, inner, outer, hi, hindex, selectUnique_eq_some_iff.1 ho,
          Option.some.inj hway⟩
      · cases hway
    · rintro ⟨-, inner, outer, hi, hindex, ho, rfl⟩
      have houter : resolver.selectUnique (demand.fromBetween f) = .ok (some outer) :=
        selectUnique_eq_some_iff.2 ho
      refine ⟨inner, ⟨hi, hindex⟩, ?_⟩
      rw [show resolver.selectUnique { demand with source := some f.candidate.returnType } =
        .ok (some outer) from houter]
      rfl

/-- A chain is found from a method exactly if it leads on. -/
theorem afterMethod_isSome_iff (argument : Assignment) :
    (resolver.afterMethod? demand argument f).isSome = true ↔ resolver.LeadsOn demand f := by
  rw [Option.isSome_iff_exists]
  simp only [afterMethod_eq_some_iff]
  constructor
  · rintro ⟨way, hne, inner, outer, hi, hindex, ho, -⟩
    exact ⟨hne, ⟨inner, hi, hindex⟩, outer, ho⟩
  · rintro ⟨hne, ⟨inner, hi, hindex⟩, outer, ho⟩
    exact ⟨_, hne, inner, outer, hi, hindex, ho, rfl⟩

/-- A method that suits a demand exactly and has no rival is the only one chosen. -/
theorem select_eq_of_suits (hf : f ∈ resolver.steps)
    (h : (resolver.request demand).Suits f.candidate) (hone : (resolver.select demand).length = 1) :
    ∃ s, resolver.select demand = [s] ∧ s.index = f.index ∧ s.candidate = f.candidate := by
  obtain ⟨s, hs⟩ := List.length_eq_one_iff.1 hone
  obtain ⟨t, ht, hindex, hcandidate⟩ := Request.mem_select_of_suits (mem_steps hf).1 h
  have hmem : t ∈ resolver.select demand := ht
  rw [hs, List.mem_singleton] at hmem
  exact ⟨s, hs, hmem ▸ hindex, hmem ▸ hcandidate⟩

/-- A chain that nobody contests is found. -/
theorem Chain.found (h : resolver.Chain demand f g) (hu : resolver.Uncontested demand f)
    (argument : Assignment) : ∃ way,
      resolver.afterMethod? demand argument f = some (chainText f g, way) := by
  obtain ⟨inner, hi, hindex, -⟩ := select_eq_of_suits h.first h.suits_first hu.1
  obtain ⟨outer, ho, -, houter⟩ := select_eq_of_suits h.second h.suits_second hu.2
  have htext : chainText f outer = chainText f g := by rw [chainText, chainText, houter]
  rw [← htext]
  exact ⟨_, afterMethod_eq_some_iff.2 ⟨h.apart, inner, outer, hi, hindex, ho, rfl⟩⟩

/-- Two different chains that nobody contests start with different methods. -/
theorem Chain.first_ne (h : resolver.Chain demand f g) (h' : resolver.Chain demand f' g')
    (hu : resolver.Uncontested demand f) (hne : (f, g) ≠ (f', g')) : f ≠ f' := by
  rintro rfl
  -- from the same first method both go on to the only method that answers the second step
  obtain ⟨outer, ho, hindex, -⟩ := select_eq_of_suits h.second h.suits_second hu.2
  obtain ⟨outer', ho', hindex', -⟩ := select_eq_of_suits h'.second h'.suits_second hu.2
  rw [ho, List.cons.injEq] at ho'
  rw [ho'.1, hindex'] at hindex
  exact hne (by rw [eq_of_mem_steps h.second h'.second hindex.symm])

/-! ## Finding chains -/

theorem two_le_chains_iff (argument : Assignment) : 2 ≤ (resolver.chains demand argument).length ↔
    ∃ f ∈ resolver.steps, ∃ f' ∈ resolver.steps, f ≠ f' ∧ resolver.LeadsOn demand f ∧
      resolver.LeadsOn demand f' := by
  -- the chains are counted by the steps that they are found from, each of which stands once
  have hnodup := List.Nodup.of_map _ resolver.steps_index_nodup
  have hcard := List.toFinset_card_of_nodup
    (hnodup.filter fun f => (resolver.afterMethod? demand argument f).isSome)
  rw [chains, List.length_filterMap_eq_countP, List.countP_eq_length_filter, ← hcard,
    Nat.succ_le_iff, Finset.one_lt_card]
  simp only [List.mem_toFinset, List.mem_filter, afterMethod_isSome_iff]
  constructor
  · rintro ⟨f, ⟨hf, hlf⟩, f', ⟨hf', hlf'⟩, hne⟩
    exact ⟨f, hf, f', hf', hne, hlf, hlf'⟩
  · rintro ⟨f, hf, f', hf', hne, hlf, hlf'⟩
    exact ⟨f, ⟨hf, hlf⟩, f', ⟨hf', hlf'⟩, hne⟩

theorem chains_eq_nil_iff (argument : Assignment) : resolver.chains demand argument = [] ↔
    ∀ f ∈ resolver.steps, ¬resolver.LeadsOn demand f := by
  rw [chains, List.filterMap_eq_nil_iff]
  refine forall₂_congr fun f _ => ?_
  rw [← afterMethod_isSome_iff argument, Option.not_isSome_iff_eq_none]

/-! ## Resolution without earlier ways -/

/-- Neither a method nor a way without one maps the value. -/
structure NothingBefore (resolver : Resolver) (source : Ty) (demand : Demand)
    (argument : Assignment) : Prop where
  noMethod : resolver.selectUnique demand = .ok none
  noSimpleWay : demand.criteria.isQualified = true ∨
    resolver.unqualified source demand argument = .ok none

/-- The ways through one method and one conversion. -/
def throughConversion (resolver : Resolver) (source : Ty) (demand : Demand)
    (argument : Assignment) : Except ResolutionError (Option Assignment) := do
  match ← onlyWay source demand
    (resolver.steps.filterMap (resolver.afterConversion? source demand argument)) with
  | some way => return some way
  | none =>
    onlyWay source demand (resolver.steps.filterMap (resolver.beforeConversion? demand argument))

theorem twoSteps_eq : resolver.twoSteps source demand argument = (do
    match ← onlyWay source demand (resolver.chains demand argument) with
    | some way => return some way
    | none => resolver.throughConversion source demand argument) := rfl

theorem onlyWay_of_two {ways : List (String × Assignment)} (h : 2 ≤ ways.length) :
    onlyWay source demand ways =
      .error (.ambiguous source demand.target (ways.map Prod.fst)) := by
  match ways, h with
  | _ :: _ :: _, _ => rfl

variable {value : SourceValue} {presence : Presence} {target : Ty} {criteria : Criteria}
  {context : List Parameter}

section

variable (hd : demand = .ofValue value target criteria context)
  (h : resolver.NothingBefore value.ty demand (.direct value presence))
include hd h

theorem resolve_of_nothingBefore :
    resolver.resolve value presence target criteria context = (do
      match ← resolver.twoSteps value.ty demand (.direct value presence) with
      | some assignment => return assignment
      | none => throw (.noMatch value.ty target)) := by
  subst hd
  unfold resolve
  dsimp only
  rw [show resolver.selectUnique { source := some value.ty, target, criteria, context } = .ok none
    from h.noMethod]
  simp only [bind, Except.bind]
  split
  · rfl
  · rename_i hq
    have hsimple := h.noSimpleWay.resolve_left hq
    rw [show resolver.unqualified value.ty { source := some value.ty, target, criteria, context }
      (.direct value presence) = .ok none from hsimple]
    rfl

theorem resolve_of_many (hmany : 2 ≤ (resolver.chains demand (.direct value presence)).length) :
    resolver.resolve value presence target criteria context =
      .error (.ambiguous value.ty target
        ((resolver.chains demand (.direct value presence)).map Prod.fst)) := by
  rw [resolve_of_nothingBefore hd h, twoSteps_eq, onlyWay_of_two hmany, hd]
  rfl

theorem resolve_of_one {way : String × Assignment}
    (hone : resolver.chains demand (.direct value presence) = [way]) :
    resolver.resolve value presence target criteria context = .ok way.2 := by
  rw [resolve_of_nothingBefore hd h, twoSteps_eq, hone]
  rfl

theorem resolve_of_none (hnone : resolver.chains demand (.direct value presence) = []) :
    resolver.resolve value presence target criteria context = (do
      match ← resolver.throughConversion value.ty demand (.direct value presence) with
      | some assignment => return assignment
      | none => throw (.noMatch value.ty target)) := by
  rw [resolve_of_nothingBefore hd h, twoSteps_eq, hnone]
  rfl

/-- If nothing is found before, resolution is ambiguous exactly where several chains are found, or
none is and the ways through a conversion are ambiguous. -/
theorem resolve_ambiguous_iff :
    (∃ names, resolver.resolve value presence target criteria context =
        .error (.ambiguous value.ty target names)) ↔
      2 ≤ (resolver.chains demand (.direct value presence)).length ∨
      resolver.chains demand (.direct value presence) = [] ∧
        ∃ names, resolver.throughConversion value.ty demand (.direct value presence) =
          .error (.ambiguous value.ty target names) := by
  match hchains : resolver.chains demand (.direct value presence) with
  | [] =>
    rw [resolve_of_none hd h hchains]
    cases resolver.throughConversion value.ty demand (.direct value presence) with
    | error e => simp [bind, Except.bind]
    | ok found => cases found <;> simp [bind, Except.bind, pure, Except.pure, throw, throwThe,
        MonadExceptOf.throw]
  | [way] =>
    rw [resolve_of_one hd h hchains]
    simp
  | way :: way' :: rest =>
    have hmany : 2 ≤ (resolver.chains demand (.direct value presence)).length := by
      rw [hchains]
      simp
    exact iff_of_true ⟨_, resolve_of_many hd h hmany⟩ (Or.inl (hchains ▸ hmany))

end

/-- Of chains that nobody contests none is chosen silently if there are several. In this stage
resolution is ambiguous exactly where two first methods lead on, or none does and the ways through a
conversion are ambiguous. -/
theorem chains_ambiguous
    (h : resolver.NothingBefore value.ty (.ofValue value target criteria context)
      (.direct value presence)) :
    let demand := Demand.ofValue value target criteria context
    let answer := resolver.resolve value presence target criteria context
    (∀ f g f' g', resolver.Chain demand f g → resolver.Chain demand f' g' → (f, g) ≠ (f', g') →
      resolver.Uncontested demand f → resolver.Uncontested demand f' →
      ∃ names, answer = .error (.ambiguous value.ty target names) ∧
        chainText f g ∈ names ∧ chainText f' g' ∈ names) ∧
    ((∃ names, answer = .error (.ambiguous value.ty target names)) ↔
      (∃ f ∈ resolver.steps, ∃ f' ∈ resolver.steps, f ≠ f' ∧ resolver.LeadsOn demand f ∧
        resolver.LeadsOn demand f') ∨
      (∀ f ∈ resolver.steps, ¬resolver.LeadsOn demand f) ∧
        ∃ names, resolver.throughConversion value.ty demand (.direct value presence) =
          .error (.ambiguous value.ty target names)) := by
  intro demand answer
  constructor
  · intro f g f' g' hc hc' hne hu hu'
    obtain ⟨way, hway⟩ := hc.found hu (.direct value presence)
    obtain ⟨way', hway'⟩ := hc'.found hu' (.direct value presence)
    have hmany : 2 ≤ (resolver.chains demand (.direct value presence)).length :=
      (two_le_chains_iff _).2 ⟨f, hc.first, f', hc'.first, hc.first_ne hc' hu hne,
        (afterMethod_isSome_iff _).1 (by rw [hway]; rfl),
        (afterMethod_isSome_iff _).1 (by rw [hway']; rfl)⟩
    refine ⟨_, resolve_of_many rfl h hmany, ?_, ?_⟩
    · exact List.mem_map.2 ⟨_, List.mem_filterMap.2 ⟨f, hc.first, hway⟩, rfl⟩
    · exact List.mem_map.2 ⟨_, List.mem_filterMap.2 ⟨f', hc'.first, hway'⟩, rfl⟩
  · rw [← two_le_chains_iff (.direct value presence), ← chains_eq_nil_iff (.direct value presence)]
    exact resolve_ambiguous_iff rfl h

end Resolver

/-! ## Freight from the port to the depot -/

namespace Freight

def leg (name source result : String) : Candidate where
  name := name
  parameters := [⟨"freight", .named source, .source⟩]
  returnType := .named result
  owner := some (.named "harbour.Mapper")

theorem plain_leg (name source result : String) :
    (leg name source result).Plain (.named source) (.named result) :=
  ⟨⟨_, rfl⟩, rfl, rfl, rfl, rfl, rfl⟩

def resolver (legs : List Candidate) : Resolver where
  table := .declareAll {} (["Ship", "Train", "Truck", "Depot"].map fun name =>
    .plain ("harbour." ++ name))
  mapper := .named "harbour.Mapper"
  candidates := legs

/-- Freight goes by train or by truck. -/
def twoRoutes : Resolver := resolver [
  leg "toTrain" "harbour.Ship" "harbour.Train",
  leg "fromTrain" "harbour.Train" "harbour.Depot",
  leg "toTruck" "harbour.Ship" "harbour.Truck",
  leg "fromTruck" "harbour.Truck" "harbour.Depot"]

/-- Freight goes by train, and the train goes by the north or by the south. -/
def twoLines : Resolver := resolver [
  leg "toTrain" "harbour.Ship" "harbour.Train",
  leg "byNorth" "harbour.Train" "harbour.Depot",
  leg "bySouth" "harbour.Train" "harbour.Depot"]

def ship : SourceValue := .ofParameter "ship" (.named "harbour.Ship")

def demand : Demand := .ofValue ship (.named "harbour.Depot") .mapping []

theorem chain_legs {legs : List Candidate} {i j : Nat} {first second between : String}
    (hf : ⟨i, leg first "harbour.Ship" between, [], []⟩ ∈ (resolver legs).steps)
    (hg : ⟨j, leg second between "harbour.Depot", [], []⟩ ∈ (resolver legs).steps)
    (hne : between ≠ "harbour.Depot") :
    (resolver legs).Chain demand ⟨i, leg first "harbour.Ship" between, [], []⟩
      ⟨j, leg second between "harbour.Depot", [], []⟩ :=
  .of_plain hf hg (plain_leg _ _ _) (plain_leg _ _ _) rfl rfl rfl rfl
    fun h => hne (Ty.declared.inj h).1

/-- By train and by truck there are two chains, nobody contests a leg of them, and so the freight
is not sent. -/
theorem chains_ambiguous_twoRoutes :
    twoRoutes.NothingBefore ship.ty demand (.direct ship .unchecked) ∧
      ∃ names, twoRoutes.resolve ship .unchecked (.named "harbour.Depot") .mapping [] =
          .error (.ambiguous (.named "harbour.Ship") (.named "harbour.Depot") names) ∧
        "Depot Mapper.fromTrain(Train freight) after Train Mapper.toTrain(Ship freight)" ∈ names ∧
        "Depot Mapper.fromTruck(Truck freight) after Truck Mapper.toTruck(Ship freight)" ∈ names := by
  have hnothing : twoRoutes.NothingBefore ship.ty demand (.direct ship .unchecked) :=
    ⟨rfl, Or.inr rfl⟩
  have htrain : twoRoutes.Chain demand ⟨0, leg "toTrain" "harbour.Ship" "harbour.Train", [], []⟩
      ⟨1, leg "fromTrain" "harbour.Train" "harbour.Depot", [], []⟩ :=
    chain_legs (by decide +kernel) (by decide +kernel) (by decide)
  have htruck : twoRoutes.Chain demand ⟨2, leg "toTruck" "harbour.Ship" "harbour.Truck", [], []⟩
      ⟨3, leg "fromTruck" "harbour.Truck" "harbour.Depot", [], []⟩ :=
    chain_legs (by decide +kernel) (by decide +kernel) (by decide)
  refine ⟨hnothing, ?_⟩
  exact (Resolver.chains_ambiguous hnothing).1 _ _ _ _ htrain htruck (by decide) ⟨rfl, rfl⟩
    ⟨rfl, rfl⟩

/-- By the north and by the south there are two chains, but they are contested at their second
step and neither is reported. -/
theorem not_always_ambiguous : ¬∀ (resolver : Resolver) (value : SourceValue) (presence : Presence)
    (target : Ty) (criteria : Criteria) (context : List Parameter) (f g f' g' : Selected),
    resolver.NothingBefore value.ty (.ofValue value target criteria context)
      (.direct value presence) →
    resolver.Chain (.ofValue value target criteria context) f g →
    resolver.Chain (.ofValue value target criteria context) f' g' → (f, g) ≠ (f', g') →
    ∃ names, resolver.resolve value presence target criteria context =
      .error (.ambiguous value.ty target names) := by
  intro hall
  have hnorth : twoLines.Chain demand ⟨0, leg "toTrain" "harbour.Ship" "harbour.Train", [], []⟩
      ⟨1, leg "byNorth" "harbour.Train" "harbour.Depot", [], []⟩ :=
    chain_legs (by decide +kernel) (by decide +kernel) (by decide)
  have hsouth : twoLines.Chain demand ⟨0, leg "toTrain" "harbour.Ship" "harbour.Train", [], []⟩
      ⟨2, leg "bySouth" "harbour.Train" "harbour.Depot", [], []⟩ :=
    chain_legs (by decide +kernel) (by decide +kernel) (by decide)
  have hanswer : twoLines.resolve ship .unchecked (.named "harbour.Depot") .mapping [] =
      .error (.noMatch (.named "harbour.Ship") (.named "harbour.Depot")) := rfl
  obtain ⟨names, hnames⟩ := hall twoLines ship .unchecked (.named "harbour.Depot") .mapping []
    _ _ _ _ ⟨rfl, Or.inr rfl⟩ hnorth hsouth (by decide)
  rw [hanswer] at hnames
  cases hnames

end Freight

end BeanMapper
