import BeanMapper.Mapper.Generated
import BeanMapper.Proofs.Generation.Outcomes
import BeanMapper.Proofs.Type.Origins

/-!
# Imports of loops

The loop of a container method is written with the types of the parts of its source and its result:
of elements, or of keys and values (`MethodBody.loopTypes`). The imports of the method are gathered
from its signature, from what it constructs and calls and from its assignments, but not from the
loop (`GeneratedMethod.Mentions`). That is enough for a container whose parts are its arguments. A
class that extends a container may fix the parts in its declaration, and then only the loop has
them: `MapperDecl.loop_class_imported_iff` says that such classes are missed, and no others.
`Meadow.not_always_imported` is a herd whose cows are missed.
-/

namespace BeanMapper

/-- The types that the loop of a container method is written with: those of the elements on both
sides, or of the keys and the values. -/
def MethodBody.loopTypes : MethodBody → List Ty
  | bean _ => []
  | iterable _ _ element => [element.source, element.result]
  | map _ key value => [key.source, value.source, key.result, value.result]

/-! ## Classes that a method mentions -/

namespace GeneratedMethod

/-- A method mentions a class, apart from its loop. -/
inductive Mentions (method : GeneratedMethod) (c : Ty) : Prop where
  | parameter {parameter : Parameter} (hp : parameter ∈ method.parameters)
    (h : c ∈ parameter.ty.imports)
  | returned (h : c ∈ method.returnType.imports)
  | constructed {ty : Ty} (hty : method.creation = .construct ty) (h : c ∈ ty.imports)
  | called {reference : Reference} (hr : reference ∈ method.references)
    (h : c ∈ reference.importList)
  | assigned {part : String × Assignment} (hp : part ∈ method.parts) (h : c ∈ part.2.importList)

variable {method : GeneratedMethod} {c : Ty}

theorem mem_imports_iff : c ∈ method.imports ↔ method.Mentions c := by
  simp only [imports, mem_distinct, importList, List.mem_append, List.mem_flatMap, or_assoc]
  constructor
  · rintro (⟨p, hp, h⟩ | h | ⟨ty, hty, h⟩ | ⟨reference, hr, h⟩ | ⟨part, hp, h⟩)
    · exact .parameter hp h
    · exact .returned h
    · cases hcreation : method.creation with
      | construct constructed =>
        rw [hcreation] at hty
        cases List.mem_singleton.1 hty
        exact .constructed hcreation h
      | _ => rw [hcreation] at hty; cases hty
    · exact .called hr h
    · exact .assigned hp h
  · rintro (⟨hp, h⟩ | h | ⟨hty, h⟩ | ⟨hr, h⟩ | ⟨hp, h⟩)
    · exact Or.inl ⟨_, hp, h⟩
    · exact Or.inr (Or.inl h)
    · exact Or.inr (Or.inr (Or.inl ⟨_, by rw [hty]; exact List.mem_singleton_self _, h⟩))
    · exact Or.inr (Or.inr (Or.inr (Or.inl ⟨_, hr, h⟩)))
    · exact Or.inr (Or.inr (Or.inr (Or.inr ⟨_, hp, h⟩)))

/-- A method hides a class in its loop: a declaration above the type of a source or of the result
fixes the class as a part, and nothing but the loop mentions it. -/
structure Hides (table : ClassTable) (method : GeneratedMethod) (c : Ty) : Prop where
  fixed : (∃ source ∈ method.sources, table.Fixes source.ty c) ∨ table.Fixes method.resultType c
  unmentioned : ¬method.Mentions c

theorem mentions_resultType (h : c ∈ method.resultType.imports) : method.Mentions c := by
  unfold Signature.resultType at h
  split at h
  · rename_i target htarget
    exact .parameter (List.mem_of_find?_eq_some htarget) h
  · exact .returned h

end GeneratedMethod

/-! ## Parts of the source and of the result -/

namespace Generator

variable {generator : Generator} {method : Method} {generated : GeneratedMethod} {ty : Ty}

theorem types_of_partMapping {position : ElementPosition} {options : ElementOptions}
    {expression : String} {source result : Ty} {part : PartMapping}
    (h : generator.partMapping method position options expression source result = .ok part) :
    part.source = source ∧ part.result = result := by
  unfold partMapping at h
  split at h
  · cases h
    exact ⟨rfl, rfl⟩
  · cases h

/-- A generated method keeps the signature of its declaration. -/
theorem toSignature_of_draft (hg : (generator.draft method).method = some generated) :
    generated.toSignature = method.toSignature := by
  rcases draft_cases hg with hbean | ⟨source, -, hiterable | hmap⟩
  · rw [hbean] at hg
    obtain ⟨beans, writable, mappings, creation, -, -, rfl⟩ := bean_made hg
    rfl
  · obtain ⟨_, _, element, creation, -, -, -, -, rfl⟩ := iterable_made hiterable
    rfl
  · obtain ⟨_, _, _, _, key, value, creation, -, -, -, -, -, rfl⟩ := map_made hmap
    rfl

/-- The loop of a generated method is written with the parts of its only source and of its
result. -/
theorem isPart_of_mem_loopTypes (hg : (generator.draft method).method = some generated)
    (hty : ty ∈ generated.body.loopTypes) :
    ∃ source, method.sources = [source] ∧
      (generator.table.IsPart source.ty ty ∨ generator.table.IsPart method.resultType ty) := by
  rcases draft_cases hg with hbean | ⟨source, hsources, hiterable | hmap⟩
  · rw [hbean] at hg
    obtain ⟨beans, writable, mappings, creation, -, -, rfl⟩ := bean_made hg
    cases hty
  · refine ⟨source, hsources, ?_⟩
    obtain ⟨_, _, element, creation, hsource, hresult, helement, -, rfl⟩ :=
      iterable_made hiterable
    obtain ⟨rfl, rfl⟩ := types_of_partMapping helement
    rcases List.mem_pair.1 hty with rfl | rfl
    · exact Or.inl (Or.inl hsource)
    · exact Or.inr (Or.inl hresult)
  · refine ⟨source, hsources, ?_⟩
    obtain ⟨_, _, _, _, key, value, creation, hsource, hresult, hkey, hvalue, -, rfl⟩ :=
      map_made hmap
    obtain ⟨rfl, rfl⟩ := types_of_partMapping hkey
    obtain ⟨rfl, rfl⟩ := types_of_partMapping hvalue
    have hparts : ty = key.source ∨ ty = value.source ∨ ty = key.result ∨ ty = value.result := by
      simpa [complete, MethodBody.loopTypes] using hty
    rcases hparts with rfl | rfl | rfl | rfl
    · exact Or.inl (Or.inr ⟨_, _, hsource, Or.inl rfl⟩)
    · exact Or.inl (Or.inr ⟨_, _, hsource, Or.inr rfl⟩)
    · exact Or.inr (Or.inr ⟨_, _, hresult, Or.inl rfl⟩)
    · exact Or.inr (Or.inr ⟨_, _, hresult, Or.inr rfl⟩)

/-- A class of a loop that nothing else mentions is fixed by a declaration. -/
theorem fixes_of_mem_loopTypes (hg : (generator.draft method).method = some generated) {c : Ty}
    (hty : ty ∈ generated.body.loopTypes) (hc : c ∈ ty.imports) (hrequires : c.requiresImport = true)
    (hno : ¬generated.Mentions c) : generated.Hides generator.table c := by
  refine ⟨?_, hno⟩
  obtain ⟨source, hsources, hpart⟩ := isPart_of_mem_loopTypes hg hty
  rw [← toSignature_of_draft hg] at hsources hpart
  have hsource : source ∈ generated.sources := hsources ▸ List.mem_singleton_self source
  rcases hpart with hpart | hpart
  · refine Or.inl ⟨source, hsource, (hpart.mem_imports hc hrequires).resolve_left fun h => hno ?_⟩
    exact .parameter (List.mem_filter.1 hsource).1 h
  · exact Or.inr ((hpart.mem_imports hc hrequires).resolve_left fun h =>
      hno (GeneratedMethod.mentions_resultType h))

end Generator

/-! ## Generated mappers -/

namespace MapperDecl

/-- **What loops import.** Every type in the loop of a generated container method is that of a part
of the method's only source or of its result. A class of such a type that needs an import is
imported for the method unless the method hides it. -/
theorem loop_class_imported_iff {mapper : MapperDecl} {table : ClassTable} {settings : Settings}
    {method : Method} {generated : GeneratedMethod} {ty c : Ty}
    (hm : method ∈ mapper.abstractMethods)
    (hg : ((mapper.generator table settings).draft method).method = some generated)
    (hty : ty ∈ generated.body.loopTypes) (hc : c ∈ ty.imports)
    (hrequires : c.requiresImport = true) :
    generated ∈ (mapper.generate table settings).methods ∧
      (∃ source, generated.sources = [source] ∧
        (table.IsPart source.ty ty ∨ table.IsPart generated.resultType ty)) ∧
      (c ∈ generated.imports ↔ ¬generated.Hides table c) := by
  refine ⟨mem_methods_of_draft hm hg, ?_, ?_⟩
  · have hpart := Generator.isPart_of_mem_loopTypes hg hty
    rw [← Generator.toSignature_of_draft hg] at hpart
    exact hpart
  · rw [GeneratedMethod.mem_imports_iff]
    constructor
    · exact fun hmentions hhides => hhides.unmentioned hmentions
    · exact fun hno => by_contra fun h =>
        hno (Generator.fixes_of_mem_loopTypes hg hty hc hrequires h)

end MapperDecl

/-! ## Herds of cows -/

namespace Meadow

/-- A herd is a list of cows, and a cow is an animal. -/
def classes : ClassTable := Platform.table.declareAll [.plain "zoo.Animal",
  (ClassDecl.plain "farm.Cow").generic [] ["zoo.Animal"],
  (ClassDecl.plain "farm.Herd").generic [] ["java.util.ArrayList<farm.Cow>"]]

def toAnimals : Method where
  name := "toAnimals"
  parameters := [{ name := "herd", ty := .named "farm.Herd" }]
  returnType := .declared "java.util.List" [.named "zoo.Animal"]
  owner := .named "office.HerdMapper"

def mapper : MapperDecl where
  ty := .named "office.HerdMapper"
  methods := [toAnimals]

theorem generated_animals : ∃ generated,
    ((mapper.generator classes {}).draft toAnimals).method = some generated ∧
      generated.body.loopTypes = [.named "farm.Cow", .named "zoo.Animal"] ∧
      generated.imports = [.named "farm.Herd", .named "java.util.List", .named "zoo.Animal",
        .named "java.util.ArrayList"] := by
  refine ⟨_, rfl, ?_, ?_⟩
  · decide +kernel
  · decide +kernel

/-- The cow, which only the declaration of a herd says to be in it, is hidden in the loop; the
animal is imported. -/
theorem loop_class_imported_iff_herd : toAnimals ∈ mapper.abstractMethods ∧
    (Ty.named "farm.Cow").requiresImport = true ∧ (Ty.named "zoo.Animal").requiresImport = true ∧
    ∃ generated, ((mapper.generator classes {}).draft toAnimals).method = some generated ∧
      generated ∈ (mapper.generate classes {}).methods ∧
      generated.body.loopTypes = [.named "farm.Cow", .named "zoo.Animal"] ∧
      .named "farm.Cow" ∉ generated.imports ∧ generated.Hides classes (.named "farm.Cow") ∧
      .named "zoo.Animal" ∈ generated.imports ∧ ¬generated.Hides classes (.named "zoo.Animal") := by
  have hm : toAnimals ∈ mapper.abstractMethods := by decide
  obtain ⟨generated, hg, hloop, himports⟩ := generated_animals
  have hcows : Ty.named "farm.Cow" ∈ generated.body.loopTypes := by simp [hloop]
  have hanimals : Ty.named "zoo.Animal" ∈ generated.body.loopTypes := by simp [hloop]
  have hself (name : String) : Ty.named name ∈ (Ty.named name).imports :=
    List.mem_singleton_self _
  obtain ⟨hmem, -, hcow⟩ :=
    MapperDecl.loop_class_imported_iff hm hg hcows (hself "farm.Cow") (by decide)
  obtain ⟨-, -, hanimal⟩ :=
    MapperDecl.loop_class_imported_iff hm hg hanimals (hself "zoo.Animal") (by decide)
  have hmissing : Ty.named "farm.Cow" ∉ generated.imports := by
    rw [himports]
    decide
  have hpresent : Ty.named "zoo.Animal" ∈ generated.imports := by
    rw [himports]
    decide
  exact ⟨hm, by decide, by decide, generated, hg, hmem, hloop, hmissing,
    not_not.1 (mt hcow.2 hmissing), hpresent, hanimal.1 hpresent⟩

/-- The class of the cows in a herd is not imported, though the loop runs over cows. -/
theorem not_always_imported : ¬∀ (mapper : MapperDecl) (table : ClassTable) (settings : Settings)
    (method : Method) (generated : GeneratedMethod) (ty c : Ty), method ∈ mapper.abstractMethods →
    ((mapper.generator table settings).draft method).method = some generated →
    ty ∈ generated.body.loopTypes → c ∈ ty.imports → c.requiresImport = true →
    c ∈ generated.imports := by
  intro hall
  obtain ⟨generated, hg, hloop, himports⟩ := generated_animals
  have hcow := hall mapper classes {} toAnimals generated (.named "farm.Cow") (.named "farm.Cow")
    (by decide) hg (by simp [hloop]) (by decide) (by decide)
  rw [himports] at hcow
  revert hcow
  decide

end Meadow

end BeanMapper
