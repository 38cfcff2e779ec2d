import BeanMapper.Proofs.Conversion.Finding
import BeanMapper.Proofs.Generation.Imports
import BeanMapper.Proofs.Generation.LoopTypes
import BeanMapper.Proofs.Generation.Uses
import Mathlib.Data.List.Nodup

/-!
# Plain imports

An import names a class, so it is to have no type arguments, and no class is to be imported twice.
What a type, a conversion, a wrapper, a class literal or a helper needs is plain in this sense
(`Ty.isPlain_of_mem_imports`). The mapper that provides a called method is imported as it is, with
its arguments, and nothing else is (`Assignment.Made.plain_or_used`). So the imports are plain
classes, each of them once, exactly if no such mapper has arguments
(`MapperDecl.imports_plain_iff`, `Codecs.not_always_plain`).
-/

namespace BeanMapper

/-! ## Plain classes -/

namespace Ty

/-- A class without arguments. -/
def IsPlain (ty : Ty) : Prop := ∃ name, ty = named name

theorem isPlain_of_mem_mentioned {c ty : Ty} (h : c ∈ ty.mentioned) : c.IsPlain := by
  induction ty using Ty.byParts with
  | declared name args ih =>
    rcases mem_mentioned_declared.1 h with rfl | ⟨arg, harg, hc⟩
    · exact ⟨name, rfl⟩
    · exact ih arg harg hc
  | array component ih =>
    rw [mentioned] at h
    exact ih h
  | void => simp [mentioned] at h
  | primitive p => simp [mentioned] at h
  | typeVar name => simp [mentioned] at h

/-- Whatever a type is written with, it is imported without arguments. -/
theorem isPlain_of_mem_imports {c ty : Ty} (h : c ∈ ty.imports) : c.IsPlain := by
  rw [imports, mem_distinct] at h
  exact isPlain_of_mem_mentioned h

theorem isPlain_named (name : String) : (named name).IsPlain := ⟨name, rfl⟩

theorem IsPlain.args {ty : Ty} (h : ty.IsPlain) : ty.args = [] := by
  obtain ⟨name, rfl⟩ := h
  rfl

/-- A plain class is known by its name. -/
theorem IsPlain.eq_of_qualifiedName {a b : Ty} (ha : a.IsPlain) (hb : b.IsPlain)
    (h : a.qualifiedName = b.qualifiedName) : a = b := by
  obtain ⟨m, rfl⟩ := ha
  obtain ⟨n, rfl⟩ := hb
  exact congrArg named h

theorem isPlain_of_requiresImport {ty : Ty} (h : ty.requiresImport = true) (hargs : ty.args = []) :
    ty.IsPlain := by
  cases ty with
  | declared name args =>
    cases hargs
    exact ⟨name, rfl⟩
  | _ => cases h

end Ty

/-! ## Conversions, wrappers and calls -/

namespace Conversion

variable {table : ClassTable} {source target ty : Ty} {conversion : KnownConversion}

theorem imports_of_ofPrimitives? {s t : Primitive}
    (h : ofPrimitives? source target s t = some conversion) : conversion.imports = [] := by
  unfold ofPrimitives? at h
  split at h
  · cases h
    rfl
  · split at h <;> cases h
    rfl

theorem isPlain_of_toString? (h : toString? table source target = some conversion)
    (hty : ty ∈ conversion.imports) : ty.IsPlain := by
  unfold toString? at h
  split at h
  · cases h
    cases hty
  · split at h
    · cases h
      cases hty
    · split at h <;> cases h
      exact ⟨_, List.mem_singleton.1 hty⟩

theorem isPlain_of_fromString? (h : fromString? table source target = some conversion)
    (hty : ty ∈ conversion.imports) : ty.IsPlain := by
  unfold fromString? at h
  split at h
  · cases h
    cases hty
  · split at h
    · cases h
      exact Ty.isPlain_of_mem_imports hty
    · split at h <;> cases h
      exact ⟨_, List.mem_singleton.1 hty⟩

/-- A conversion imports an enumeration or the format of a date. -/
theorem isPlain_of_find? (h : find? table source target = some conversion)
    (hty : ty ∈ conversion.imports) : ty.IsPlain := by
  rcases find?_cases h with ⟨s, t, h⟩ | h | h
  · rw [imports_of_ofPrimitives? h] at hty
    cases hty
  · exact isPlain_of_toString? h hty
  · exact isPlain_of_fromString? h hty

end Conversion

theorem Guard.isPlain_of_mem {guard : Guard} {inner : Assignment} {ty : Ty}
    (h : ty ∈ guard.importList inner) : ty.IsPlain := by
  unfold importList at h
  rcases List.mem_append.1 h with h | h
  · split at h
    · rcases List.mem_append.1 h with h | h
      · exact Ty.isPlain_of_mem_imports h
      · split at h
        · exact ⟨_, List.mem_singleton.1 h⟩
        · cases h
    · cases h
  · split at h
    · exact Ty.isPlain_of_mem_imports h
    · cases h

/-- What the candidates and the helpers of a resolver import of their own is plain. -/
def Resolver.HelpsPlainly (resolver : Resolver) : Prop :=
  ∀ s, resolver.Offers s → ∀ ty ∈ s.candidate.helperImports, ty.IsPlain

/-- What a chosen method imports is plain, or it is the mapper that provides the method. -/
theorem Call.plain_or_used {resolver : Resolver} (hplain : resolver.HelpsPlainly) {s : Selected}
    (hs : resolver.Offers s) {ty : Ty} (h : ty ∈ (ofSelected resolver.mapper s).imports) :
    ty.IsPlain ∨ (ofSelected resolver.mapper s).provider = .usedMapper ty := by
  rcases List.mem_append.1 h with h | h
  · rcases List.mem_append.1 h with h | h
    · exact Or.inl (hplain s hs ty h)
    · split at h
      · rename_i owner howner
        rw [List.mem_singleton.1 h]
        exact Or.inr howner
      · cases h
  · obtain ⟨target, -, h⟩ := List.mem_flatMap.1 h
    exact Or.inl (Ty.isPlain_of_mem_imports h)

/-! ## Assignments -/

/-- The type is plain, or it is the mapper that provides one of the methods called. -/
def PlainOrUsed (references : List Reference) (ty : Ty) : Prop :=
  ty.IsPlain ∨ ∃ reference ∈ references, reference.call.provider = .usedMapper ty

theorem PlainOrUsed.mono {references others : List Reference} {ty : Ty}
    (h : PlainOrUsed references ty) (hsub : references ⊆ others) : PlainOrUsed others ty := by
  rcases h with h | ⟨reference, hmem, hprovider⟩
  · exact Or.inl h
  · exact Or.inr ⟨reference, hsub hmem, hprovider⟩

/-- What an applied call imports is what it imports itself, and what its argument does. -/
theorem Reference.plain_or_used_apply {resolver : Resolver} (hplain : resolver.HelpsPlainly)
    {s : Selected} (hs : resolver.Offers s) {argument : Assignment}
    (hargument : ∀ ty ∈ argument.importList, PlainOrUsed argument.references ty) :
    ∀ ty ∈ (apply (.ofSelected resolver.mapper s) argument).importList,
      PlainOrUsed (apply (.ofSelected resolver.mapper s) argument).references ty := by
  intro ty hty
  rw [references_apply]
  rw [apply, importList] at hty
  rcases List.mem_append.1 hty with hty | hty
  · rcases Call.plain_or_used hplain hs hty with h | h
    · exact Or.inl h
    · exact Or.inr ⟨_, List.mem_cons_self, h⟩
  · exact (hargument ty hty).mono (List.subset_cons_self _ _)

namespace Assignment

variable {resolver : Resolver} {a : Assignment}

/-- What an assignment imports is plain, or it provides a method that the assignment calls. -/
theorem Made.plain_or_used (hplain : resolver.HelpsPlainly) (h : a.Made resolver) :
    ∀ ty ∈ a.importList, PlainOrUsed a.references ty := by
  induction h with
  | unchecked value =>
    intro ty hty
    cases hty
  | accessor value expression =>
    intro ty hty
    cases hty
  | checked value hs htakes =>
    rw [references_direct, Presence.references_method, importList, Presence.importList]
    refine Reference.plain_or_used_apply hplain hs fun ty hty => ?_
    cases hty
  | convert hc _ ih =>
    intro ty hty
    rw [references_convert]
    rw [importList] at hty
    rcases List.mem_append.1 hty with hty | hty
    · exact Or.inl (Conversion.isPlain_of_find? hc hty)
    · exact ih ty hty
  | call hs htakes _ ih =>
    rw [references_call, importList]
    exact Reference.plain_or_used_apply hplain hs ih
  | nullCheck guard _ ih =>
    intro ty hty
    rw [references_nullCheck]
    rw [importList] at hty
    rcases List.mem_append.1 hty with hty | hty
    · exact ih ty hty
    · exact Or.inl (Guard.isPlain_of_mem hty)
  | merge guard check property _ ih =>
    intro ty hty
    rw [references_merge]
    rw [importList] at hty
    rcases List.mem_append.1 hty with hty | hty
    · rcases List.mem_append.1 hty with hty | hty
      · exact ih ty hty
      · exact Or.inl (Guard.isPlain_of_mem hty)
    -- a reset to the default needs the class that stands in for the target
    · split at hty
      · cases himplementation : guard.target.implementation? with
        | none =>
          rw [himplementation] at hty
          cases hty
        | some implementation =>
          rw [himplementation] at hty
          exact Or.inl (Ty.isPlain_of_mem_imports hty)
      · cases hty
  | @setter setting inner fallback _ _ ih ihfallback =>
    intro ty hty
    -- only a reset to the default mentions classes of the target
    have hreset : ty ∈ (if setting.resetsToDefault then setting.target.instantiated.imports
        else []) → PlainOrUsed (.setter setting inner fallback : Assignment).references ty := by
      intro hty
      split at hty
      · exact Or.inl (Ty.isPlain_of_mem_imports hty)
      · cases hty
    rw [references_setter] at hreset ⊢
    cases fallback with
    | none =>
      rw [importList] at hty
      rcases List.mem_append.1 hty with hty | hty
      · exact (ih ty hty).mono (List.subset_append_left _ _)
      · exact hreset hty
    | some other =>
      rw [importList] at hty
      rcases List.mem_append.1 hty with hty | hty
      · rcases List.mem_append.1 hty with hty | hty
        · exact (ih ty hty).mono (List.subset_append_left _ _)
        · refine (ihfallback other rfl ty hty).mono ?_
          rw [Option.toList_some, List.flatMap_singleton]
          exact List.subset_append_right _ _
      · exact hreset hty

end Assignment

/-! ## Methods and mappers -/

/-- What a generated method imports is plain, or it provides a method that this one calls. -/
theorem GeneratedMethod.CallsChosen.plain_or_used {resolver : Resolver}
    (hplain : resolver.HelpsPlainly) {method : GeneratedMethod} (h : method.CallsChosen resolver)
    {ty : Ty} (hty : ty ∈ method.importList) : PlainOrUsed method.allReferences ty := by
  have hmentions : method.Mentions ty := mem_imports_iff.1 (mem_distinct.2 hty)
  cases hmentions with
  | parameter _ hc => exact Or.inl (Ty.isPlain_of_mem_imports hc)
  | returned hc => exact Or.inl (Ty.isPlain_of_mem_imports hc)
  | constructed _ hc => exact Or.inl (Ty.isPlain_of_mem_imports hc)
  | @called reference hr hc =>
    obtain ⟨s, hs, hcall⟩ := (h.bare reference hr).chosen
    have hbare := (h.bare reference hr).isBare
    obtain ⟨call, argument⟩ := reference
    cases hbare
    cases hcall
    rw [Reference.importList] at hc
    rcases Call.plain_or_used hplain hs hc with hc | hc
    · exact Or.inl hc
    · exact Or.inr ⟨_, mem_allReferences_of_root hr, hc⟩
  | assigned hp hc =>
    refine ((h.made _ hp).plain_or_used hplain ty hc).mono fun reference hr => ?_
    exact List.mem_append_right _ (List.mem_flatMap.2 ⟨_, hp, hr⟩)

namespace MapperDecl

variable {mapper : MapperDecl} {table : ClassTable} {settings : Settings} {ty : Ty}

/-- Declared methods import nothing of their own, and the helpers import plain classes. -/
theorem helpsPlainly_generator :
    (mapper.generator table settings).toResolver.HelpsPlainly := by
  intro s hs ty hty
  rcases hs with hs | hs
  · obtain ⟨method, -, hmethod⟩ := List.mem_map.1 hs
    rw [← hmethod] at hty
    cases hty
  · have hhelpers : ∀ helper ∈ Candidate.helpers, ∀ ty ∈ helper.helperImports, ty.IsPlain := by
      simp [Candidate.helpers, Candidate.helper, Ty.isPlain_named]
    exact hhelpers s.candidate hs ty hty

theorem plain_or_used_of_mem_imports (h : ty ∈ (mapper.generate table settings).imports) :
    ty.IsPlain ∨ ty ∈ (mapper.generate table settings).usedMappers := by
  obtain ⟨hmem, -, -⟩ := GeneratedMapper.mem_imports.1 h
  rcases List.mem_append.1 hmem with hmem | hmem
  · rcases List.mem_append.1 hmem with hmem | hmem
    · rcases List.mem_append.1 hmem with hmem | hmem
      · exact Or.inl (Ty.isPlain_of_mem_imports hmem)
      · obtain ⟨added, -, hmem⟩ := List.mem_flatMap.1 hmem
        exact Or.inl (Ty.isPlain_of_mem_imports hmem)
    · obtain ⟨use, -, hmem⟩ := List.mem_flatMap.1 hmem
      exact Or.inl (Ty.isPlain_of_mem_imports hmem)
  · obtain ⟨method, hm, hmem⟩ := List.mem_flatMap.1 hmem
    rcases (callsChosen_of_mem hm).plain_or_used helpsPlainly_generator hmem with
      hplain | ⟨reference, hr, hprovider⟩
    · exact Or.inl hplain
    · have hmakes : (mapper.generate table settings).Makes reference.call :=
        ⟨method, hm, reference, hr, rfl⟩
      exact Or.inr (mem_usedMappers_generate.2 ⟨reference.call, hmakes, hprovider⟩)

/-- **Imports are plain but for used mappers.** Every import is a class without arguments, or it is
a mapper that provides a called method. So the imports have no arguments, and no two of them name
the same class, exactly if no mapper that provides a called method, and has to be imported, has
arguments. -/
theorem imports_plain_iff (mapper : MapperDecl) (table : ClassTable) (settings : Settings) :
    let generated := mapper.generate table settings
    (∀ ty ∈ generated.imports, ty.IsPlain ∨ ty ∈ generated.usedMappers) ∧
    (((∀ ty ∈ generated.imports, ty.args = []) ∧
        (generated.imports.map Ty.qualifiedName).Nodup) ↔
      ∀ owner ∈ generated.usedMappers, owner.requiresImport = true →
        owner.package? ≠ generated.implementationPackage → owner.args = []) := by
  intro generated
  refine ⟨fun ty h => plain_or_used_of_mem_imports h, ?_, ?_⟩
  · rintro ⟨hargs, -⟩ owner howner hrequires hpackage
    obtain ⟨call, ⟨method, hm, reference, hr, rfl⟩, hprovider⟩ :=
      mem_usedMappers_generate.1 howner
    obtain ⟨s, hs⟩ := mapper.exists_selected table settings method hm reference hr
    have hmentioned : owner ∈ generated.mentioned :=
      GeneratedMapper.mem_mentioned_of_provider hm hr hs hprovider
    exact hargs owner (GeneratedMapper.mem_imports.2 ⟨hmentioned, hrequires, hpackage⟩)
  · intro howners
    have hplain : ∀ ty ∈ generated.imports, ty.IsPlain := by
      intro ty hty
      obtain ⟨-, hrequires, hpackage⟩ := GeneratedMapper.mem_imports.1 hty
      rcases plain_or_used_of_mem_imports hty with h | h
      · exact h
      · exact Ty.isPlain_of_requiresImport hrequires (howners ty h hrequires hpackage)
    refine ⟨fun ty hty => (hplain ty hty).args, ?_⟩
    refine List.Nodup.map_on (fun a ha b hb h => ?_) ((nodup_distinct _).filter _)
    exact (hplain a ha).eq_of_qualifiedName (hplain b hb) h

end MapperDecl

/-! ## Codecs of keys and labels -/

namespace Codecs

/-- An order has a key and a label, and in a row both are texts. -/
def classes : ClassTable := .declareAll {} [
  .plain "shop.Key", .plain "shop.Label",
  { ClassDecl.plain "tools.Codec" with typeParams := ["T"] },
  { ClassDecl.plain "shop.Order" with
    properties := [
      { name := "key", typeText := "shop.Key" }, { name := "label", typeText := "shop.Label" }] },
  { ClassDecl.plain "sheet.Row" with
    properties := [
      { name := "key", typeText := "java.lang.String" },
      { name := "label", typeText := "java.lang.String" }] }]

/-- A codec writes the things of one class as texts. -/
def codec (name : String) : UsedMapper where
  ty := .declared "tools.Codec" [.named name]
  methods := [{
    name := "write"
    parameters := [{ name := "value", ty := .named name }]
    returnType := .string
    owner := .declared "tools.Codec" [.named name]
    isAbstract := false }]

def mapper : MapperDecl where
  ty := .named "office.RowMapper"
  methods := [{
    name := "toRow"
    parameters := [{ name := "order", ty := .named "shop.Order" }]
    returnType := .named "sheet.Row"
    owner := .named "office.RowMapper" }]
  usedMappers := [codec "shop.Key", codec "shop.Label"]

/-- The class of the codecs is imported twice, with an argument each time. -/
theorem not_always_plain : ¬∀ (mapper : MapperDecl) (table : ClassTable) (settings : Settings),
    (∀ ty ∈ (mapper.generate table settings).imports, ty.args = []) ∧
      ((mapper.generate table settings).imports.map Ty.qualifiedName).Nodup := by
  intro hall
  have hwritten : (mapper.generate classes {}).imports = [.named "shop.Order", .named "sheet.Row",
      (codec "shop.Key").ty, (codec "shop.Label").ty] := by
    decide +kernel
  have hargs := (hall mapper classes {}).1 (codec "shop.Key").ty (by rw [hwritten]; simp)
  cases hargs

end Codecs

end BeanMapper
