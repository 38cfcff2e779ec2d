import BeanMapper.Mapper.Generated
import BeanMapper.Proofs.Type.Agreement

/-!
# Why a method is missing

A declared method is generated and nothing is wrong with it, or it is left out and a report says
what is wrong: its draft is `Explained`. Only the parts of containers can break this. Whether a
type is a container is decided by cut supertype texts, what its parts are by the texts that are
read; where the first says yes and the second finds nothing, the method is dropped without a word.
`explained_iff_partsKnown` says that nothing else is, and `partsKnown_of_consistent` that it does
not happen to types whose searches agree.
-/

namespace BeanMapper

/-! ## Failures with messages -/

/-- There is a result, or messages say why there is none. -/
def Speaks {α : Type} (made : Except (List Message) α) : Prop := made ≠ .error []

theorem speaks_throw {α β : Type} (message : Message) (next : α → Except (List Message) β) :
    Speaks (throw [message] >>= next) := nofun

theorem speaks_mapError {α : Type} (made : Except Message α) : Speaks (made.mapError ([·])) := by
  cases made <;> exact nofun

theorem speaks_both {α β : Type} (a : Except Message α) (b : Except Message β) :
    Speaks (Generator.both a b) := by
  cases a <;> cases b <;> exact nofun

theorem speaks_bind {α β : Type} {made : Except (List Message) α}
    {next : α → Except (List Message) β} (h : Speaks made) (hnext : ∀ a, Speaks (next a)) :
    Speaks (made >>= next) := by
  cases made with
  | ok a => exact hnext a
  | error messages => exact fun he => h (by cases he; rfl)

/-! ## Explained drafts -/

namespace Draft

/-- The method is there and nothing is wrong with it, or it is missing and something is. -/
def Explained (draft : Draft) : Prop :=
  (draft.method.isSome = true ∧ draft.reports.any Report.isError = false) ∨
    (draft.method = none ∧ draft.reports.any Report.isError = true)

/-- Neither a method nor a word on why there is none. -/
def silent : Draft := ⟨none, []⟩

theorem explained_failed (element : String) {messages : List Message} (h : messages ≠ []) :
    (failed element messages).Explained := by
  refine Or.inr ⟨rfl, ?_⟩
  rw [any_isError_failed, List.isEmpty_eq_false_iff.2 h]
  rfl

theorem not_explained_silent : ¬silent.Explained := by
  rintro (⟨h, -⟩ | ⟨-, h⟩) <;> cases h

theorem ofExcept_cases (element : String) (made : Except (List Message) GeneratedMethod) :
    (ofExcept element made).Explained ∧ Speaks made ∨
      ofExcept element made = silent ∧ ¬Speaks made := by
  cases made with
  | ok method => exact Or.inl ⟨Or.inl ⟨rfl, rfl⟩, nofun⟩
  | error messages =>
    cases messages with
    | nil => exact Or.inr ⟨rfl, fun h => h rfl⟩
    | cons message rest => exact Or.inl ⟨explained_failed element (List.cons_ne_nil _ _), nofun⟩

/-- Only a failure without a message is left unexplained. -/
theorem explained_ofExcept_iff {element : String} {made : Except (List Message) GeneratedMethod} :
    (ofExcept element made).Explained ↔ Speaks made := by
  rcases ofExcept_cases element made with ⟨he, hs⟩ | ⟨he, hs⟩
  · exact iff_of_true he hs
  · exact iff_of_false (he ▸ not_explained_silent) hs

theorem ofExcept_explained_or_silent (element : String)
    (made : Except (List Message) GeneratedMethod) :
    (ofExcept element made).Explained ∨ ofExcept element made = silent :=
  (ofExcept_cases element made).imp And.left And.left

end Draft

/-! ## Containers with unknown parts -/

namespace ClassTable

/-- Two types are maps, but of one of them no view says what its keys and values are. -/
def EntriesUnknown (table : ClassTable) (source result : Ty) : Prop :=
  table.isMap source = true ∧ table.isMap result = true ∧
    (table.entryTypes? source = none ∨ table.entryTypes? result = none)

/-- Two types are mapped element by element, but of one of them no view says what its elements
are. -/
def ElementsUnknown (table : ClassTable) (source result : Ty) : Prop :=
  Generator.isSequence table source = true ∧ Generator.isSequence table result = true ∧
    (table.elementType? source = none ∨ table.elementType? result = none)

variable {table : ClassTable} {ty source result : Ty}

/-- Where the searches agree, a trait of the platform comes with a view. -/
theorem exists_view_of_reaches {goal : String} (hc : table.Consistent ty.qualifiedName)
    (hgoal : goal ≠ Platform.object) (hg : table.namesClass goal = true)
    (h : table.reaches ty goal = true) : (table.asSupertype? ty goal).isSome = true := by
  cases ty with
  | declared name args =>
    have hname : table.Consistent name := hc
    rwa [← hname.reaches_eq args hgoal hg]
  | _ => cases h

theorem entryTypes?_of_isMap (hc : table.Consistent ty.qualifiedName)
    (h : table.isMap ty = true) : table.entryTypes? ty ≠ none := by
  rw [Option.ne_none_iff_isSome, entryTypes?, Option.isSome_map]
  exact exists_view_of_reaches hc (by decide) (namesClass_of_dotted (by decide)) h

theorem elementType?_of_isSequence (hc : table.Consistent ty.qualifiedName)
    (h : Generator.isSequence table ty = true) : table.elementType? ty ≠ none := by
  rw [Option.ne_none_iff_isSome]
  unfold elementType?
  split
  · rfl
  · rename_i hne
    have harray : ty.isArray = false := by
      cases ty with
      | array component => exact absurd rfl (hne component)
      | _ => rfl
    rw [Generator.isSequence, harray, Bool.or_false] at h
    rw [Option.isSome_map]
    exact exists_view_of_reaches hc (by decide) (namesClass_of_dotted (by decide)) h

theorem not_entriesUnknown (hs : table.Consistent source.qualifiedName)
    (hr : table.Consistent result.qualifiedName) : ¬table.EntriesUnknown source result := by
  rintro ⟨hsource, hresult, h | h⟩
  · exact entryTypes?_of_isMap hs hsource h
  · exact entryTypes?_of_isMap hr hresult h

theorem not_elementsUnknown (hs : table.Consistent source.qualifiedName)
    (hr : table.Consistent result.qualifiedName) : ¬table.ElementsUnknown source result := by
  rintro ⟨hsource, hresult, h | h⟩
  · exact elementType?_of_isSequence hs hsource h
  · exact elementType?_of_isSequence hr hresult h

end ClassTable

/-- A soundly declared method maps one container to another, and what the parts of one of them are
is not known. -/
def Method.PartsUnknown (table : ClassTable) (method : Method) : Prop :=
  method.declarationFaults = [] ∧ ∃ source, method.sources = [source] ∧
    (table.EntriesUnknown source.ty method.resultType ∨
      table.isMap source.ty = false ∧ table.isMap method.resultType = false ∧
        table.ElementsUnknown source.ty method.resultType)

/-- Of types whose searches agree, the parts are known. -/
theorem Method.partsKnown_of_consistent {table : ClassTable} {method : Method}
    (hs : ∀ source ∈ method.sources, table.Consistent source.ty.qualifiedName)
    (hr : table.Consistent method.resultType.qualifiedName) : ¬method.PartsUnknown table := by
  rintro ⟨-, source, hsource, h⟩
  have hs := hs source (by simp [hsource])
  rcases h with h | ⟨-, -, h⟩
  · exact ClassTable.not_entriesUnknown hs hr h
  · exact ClassTable.not_elementsUnknown hs hr h

/-! ## Drafts of methods -/

namespace Generator

variable {generator : Generator} {method : Method} {source : Parameter}

/-- A bean method is left out exactly if a report says that something is wrong. -/
theorem bean_explained (generator : Generator) (method : Method) :
    (generator.bean method).Explained := by
  unfold bean
  dsimp only
  split
  · exact Draft.explained_failed _ (List.cons_ne_nil _ _)
  · split
    · refine Or.inr ⟨rfl, ?_⟩
      rw [List.any_append, Draft.any_isError_failed]
      exact Bool.or_true _
    · split
      · exact Or.inr ⟨rfl, ‹_›⟩
      · exact Or.inl ⟨rfl, eq_false_of_ne_true ‹_›⟩

theorem map_speaks_iff : Speaks (generator.map method source) ↔
    ¬generator.table.EntriesUnknown source.ty method.resultType := by
  unfold map ClassTable.EntriesUnknown
  dsimp only
  cases generator.table.isMap source.ty with
  | false => exact iff_of_true (speaks_throw _ _) (by simp)
  | true =>
    cases generator.table.isMap method.resultType with
    | false => exact iff_of_true (speaks_throw _ _) (by simp)
    | true =>
      cases generator.table.entryTypes? source.ty with
      | none => exact iff_of_false (fun h => h rfl) (by simp)
      | some sourceEntry =>
        cases generator.table.entryTypes? method.resultType with
        | none => exact iff_of_false (fun h => h rfl) (by simp)
        | some resultEntry =>
          refine iff_of_true (speaks_bind (speaks_both _ _) fun _ => ?_) (by simp)
          exact speaks_bind (speaks_mapError _) fun _ => nofun

theorem iterable_speaks_iff : Speaks (generator.iterable method source) ↔
    ¬generator.table.ElementsUnknown source.ty method.resultType := by
  unfold iterable ClassTable.ElementsUnknown
  dsimp only
  cases isSequence generator.table source.ty with
  | false => exact iff_of_true (speaks_throw _ _) (by simp)
  | true =>
    cases isSequence generator.table method.resultType with
    | false => exact iff_of_true (speaks_throw _ _) (by simp)
    | true =>
      cases generator.table.elementType? source.ty with
      | none => exact iff_of_false (fun h => h rfl) (by simp)
      | some sourceElement =>
        cases generator.table.elementType? method.resultType with
        | none => exact iff_of_false (fun h => h rfl) (by simp)
        | some resultElement =>
          refine iff_of_true (speaks_bind (speaks_mapError _) fun _ => ?_) (by simp)
          cases method.resultType.isArray with
          | true => exact nofun
          | false => exact speaks_bind (speaks_mapError _) fun _ => nofun

/-- Of a soundly declared method everything is explained but unknown parts. -/
theorem draftSound_explained_iff (hf : method.declarationFaults = []) :
    (generator.draftSound method).Explained ↔ ¬method.PartsUnknown generator.table := by
  unfold draftSound Method.PartsUnknown
  dsimp only
  split
  · rename_i source hs
    simp only [hf, hs, List.cons.injEq, and_true, exists_eq_left', true_and]
    -- a map on one side only is reported, and so is a sequence on one side only
    split
    · rename_i hmap
      rw [Draft.explained_ofExcept_iff, map_speaks_iff]
      refine not_congr ⟨Or.inl, fun h => h.resolve_right fun hno => ?_⟩
      rw [hno.1, hno.2.1] at hmap
      cases hmap
    · rename_i hmap
      obtain ⟨hsource, hresult⟩ := Bool.or_eq_false_iff.1 (eq_false_of_ne_true hmap)
      have hentries : ¬generator.table.EntriesUnknown source.ty method.resultType := by
        rintro ⟨h, -⟩
        rw [hsource] at h
        cases h
      simp only [hentries, hsource, hresult, true_and, false_or]
      split
      · rw [Draft.explained_ofExcept_iff, iterable_speaks_iff]
      · rename_i hsequence
        refine iff_of_true (bean_explained generator method) ?_
        rintro ⟨h, -⟩
        rw [h] at hsequence
        exact hsequence rfl
  · rename_i hmany
    refine iff_of_true (bean_explained generator method) ?_
    rintro ⟨-, source, hs, -⟩
    exact hmany source hs

theorem draft_explained_iff (generator : Generator) (method : Method) :
    (generator.draft method).Explained ↔ ¬method.PartsUnknown generator.table := by
  unfold draft
  split
  · exact draftSound_explained_iff ‹_›
  · rename_i hfaults
    exact iff_of_true (Draft.explained_failed _ hfaults) fun h => hfaults h.1

theorem draft_explained_or_silent (generator : Generator) (method : Method) :
    (generator.draft method).Explained ∨ generator.draft method = .silent := by
  unfold draft
  split
  · unfold draftSound
    dsimp only
    split
    · split
      · exact Draft.ofExcept_explained_or_silent _ _
      · split
        · exact Draft.ofExcept_explained_or_silent _ _
        · exact Or.inl (bean_explained generator method)
    · exact Or.inl (bean_explained generator method)
  · exact Or.inl (Draft.explained_failed _ ‹_›)

/-- A method whose parts are unknown is dropped without a word. -/
theorem draft_of_partsUnknown (generator : Generator)
    (h : method.PartsUnknown generator.table) : generator.draft method = .silent :=
  (draft_explained_or_silent generator method).resolve_left fun he =>
    (draft_explained_iff generator method).1 he h

end Generator

/-! ## Methods of a mapper -/

namespace Generator

def methodsOf (generator : Generator) (methods : List Method) : List GeneratedMethod :=
  (methods.map generator.draft).filterMap Draft.method

def reportsOf (generator : Generator) (methods : List Method) : List Report :=
  (methods.map generator.draft).flatMap Draft.reports

variable (generator : Generator) (method : Method) (before after : List Method)

theorem methodsOf_append_cons : generator.methodsOf (before ++ method :: after) =
    generator.methodsOf before ++ (generator.draft method).method.toList ++
      generator.methodsOf after := by
  simp only [methodsOf, List.map_append, List.map_cons, List.filterMap_append, List.append_assoc]
  cases h : (generator.draft method).method with
  | none => rw [List.filterMap_cons_none h, Option.toList_none, List.nil_append]
  | some made => rw [List.filterMap_cons_some h, Option.toList_some, List.singleton_append]

theorem reportsOf_append_cons : generator.reportsOf (before ++ method :: after) =
    generator.reportsOf before ++ (generator.draft method).reports ++ generator.reportsOf after := by
  simp [reportsOf]

end Generator

namespace MapperDecl

variable {mapper : MapperDecl} {method : Method} {before after : List Method}

/-- Every method to generate is explained, at its place among the methods and the reports, unless
the parts that it maps are unknown; then it is dropped without a word. -/
theorem explained_iff_partsKnown (h : mapper.abstractMethods = before ++ method :: after)
    (table : ClassTable) (settings : Settings) :
    let generator := mapper.generator table settings
    let generated := mapper.generate table settings
    let draft := generator.draft method
    (draft.Explained ↔ ¬method.PartsUnknown table) ∧
      (method.PartsUnknown table → draft = .silent) ∧
      (draft.method = none → ¬method.PartsUnknown table → generated.hasErrors = true) ∧
      generated.methods =
        generator.methodsOf before ++ draft.method.toList ++ generator.methodsOf after ∧
      ∃ rest, generated.reports = generator.reportsOf before ++ draft.reports ++ rest := by
  intro generator generated draft
  have hiff : draft.Explained ↔ ¬method.PartsUnknown table := generator.draft_explained_iff method
  have hmethods : generated.methods =
      generator.methodsOf before ++ draft.method.toList ++ generator.methodsOf after := by
    rw [← generator.methodsOf_append_cons, ← h]
    rfl
  have hreports : generated.reports = generator.reportsOf mapper.abstractMethods ++
      (Draft.failed mapper.ty.simpleName
        (AnnotationUse.keep [] mapper.annotationUses).2).reports := rfl
  rw [h, generator.reportsOf_append_cons, List.append_assoc] at hreports
  refine ⟨hiff, generator.draft_of_partsUnknown, fun hnone hk => ?_, hmethods, _, hreports⟩
  obtain ⟨hsome, -⟩ | ⟨-, herror⟩ := hiff.2 hk
  · rw [hnone] at hsome
    cases hsome
  · rw [GeneratedMapper.hasErrors, hreports, List.any_append, List.any_append, herror,
      Bool.or_true, Bool.true_or]

end MapperDecl

/-! ## Names that cannot be listed -/

namespace Directory

/-- Names are a list, but the supertype text that says so is not closed. -/
def classes : ClassTable := .declareAll {} [
  (ClassDecl.interface Platform.iterable).generic ["T"] [],
  (ClassDecl.interface Platform.collection).generic ["E"] ["java.lang.Iterable<E>"],
  (ClassDecl.interface Platform.list).generic ["E"] ["java.util.Collection<E>"],
  .plain Platform.string,
  (ClassDecl.plain "p.Names").generic [] ["java.util.List<java.lang.String"]]

def toList : Method where
  name := "toList"
  parameters := [{ name := "names", ty := .named "p.Names" }]
  returnType := .declared Platform.list [.string]
  owner := .named "p.NameMapper"

def toText : Method where
  name := "toText"
  parameters := [{ name := "names", ty := .named "p.Names" }]
  returnType := .string
  owner := .named "p.NameMapper"

def mapper : MapperDecl where
  ty := .named "p.NameMapper"
  methods := [toList, toText]

theorem partsUnknown_toList : toList.PartsUnknown classes := by
  refine ⟨by decide, ⟨"names", .named "p.Names", .source⟩, rfl, Or.inr ?_⟩
  unfold ClassTable.ElementsUnknown
  decide +kernel

/-- The text is left out with an error, behind the list that is dropped without a word. -/
theorem explained_iff_partsKnown_toText : mapper.abstractMethods = [toList] ++ toText :: [] ∧
    ((mapper.generator classes {}).draft toText).method = none ∧ ¬toText.PartsUnknown classes ∧
    (mapper.generate classes {}).hasErrors = true ∧
    (mapper.generate classes {}).methods = [] ∧
    ∃ rest, (mapper.generate classes {}).reports =
      [] ++ [⟨.error, "NameMapper#toText",
        .iterableToNonIterable "p.Names" "java.lang.String"⟩] ++ rest := by
  have h : mapper.abstractMethods = [toList] ++ toText :: [] := by decide
  have hlist := (mapper.generator classes {}).draft_of_partsUnknown partsUnknown_toList
  have hnone : ((mapper.generator classes {}).draft toText).method = none :=
    Option.isNone_iff_eq_none.1 (by decide +kernel)
  have hreports : ((mapper.generator classes {}).draft toText).reports =
      [⟨.error, "NameMapper#toText",
        .iterableToNonIterable "p.Names" "java.lang.String"⟩] := by decide +kernel
  obtain ⟨hiff, -, herrors, hmethods, hsplit⟩ := MapperDecl.explained_iff_partsKnown h classes {}
  have hk := hiff.1 (Or.inr ⟨hnone, by rw [hreports]; rfl⟩)
  simp only [Generator.methodsOf, Generator.reportsOf, hnone, hreports, hlist, Draft.silent,
    List.map_cons, List.map_nil] at hmethods hsplit
  exact ⟨h, hnone, hk, herrors hnone hk, hmethods, hsplit⟩

/-- The list is neither generated nor is there a report on why it is not. -/
theorem not_always_explained : ¬∀ (mapper : MapperDecl) (table : ClassTable) (settings : Settings)
    (method : Method), method ∈ mapper.abstractMethods →
    ((mapper.generator table settings).draft method).Explained := by
  intro hall
  have hexplained := hall mapper classes {} toList (by decide)
  exact ((mapper.generator classes {}).draft_explained_iff toList).1 hexplained partsUnknown_toList

end Directory

end BeanMapper
