import BeanMapper.Proofs.Assignment.Imports
import BeanMapper.Proofs.Generation.Calls
import BeanMapper.Proofs.Type.Origins

/-!
# Imports of a generated mapper

A class is mentioned by a generated mapper in its own type, in its annotations, in the types of its
methods, and in whatever they call: as a class literal or as the used mapper that provides the
method (`GeneratedMapper.Mentions`). `MapperDecl.imports_complete` says that every mentioned class
of another package is imported, and that nothing is imported which needs no import.
-/

namespace BeanMapper

/-! ## Classes of a type -/

namespace Ty

/-- A type is written with a class, at whatever depth. -/
inductive Names (name : String) : Ty → Prop where
  | head (args : List Ty) : Names name (.declared name args)
  | argument {other : String} {args : List Ty} {arg : Ty} (hmem : arg ∈ args) (h : Names name arg) :
    Names name (.declared other args)
  | component {ty : Ty} (h : Names name ty) : Names name (.array ty)

/-- The classes that a type is written with are among those to import for it. -/
theorem Names.mem_imports {name : String} {ty : Ty} (h : ty.Names name) :
    named name ∈ ty.imports := by
  rw [imports, mem_distinct]
  induction h with
  | head args => exact mem_mentioned_declared.2 (Or.inl rfl)
  | argument hmem _ ih => exact mem_mentioned_declared.2 (Or.inr ⟨_, hmem, ih⟩)
  | component _ ih =>
    rw [mentioned]
    exact ih

/-- What needs an import lies in a package other than that of the language itself. -/
theorem exists_package_of_requiresImport {ty : Ty} (h : ty.requiresImport = true) :
    ∃ package, ty.package? = some package ∧ package ≠ "java.lang" := by
  unfold requiresImport at h
  split at h
  · rename_i package hpackage
    exact ⟨package, hpackage, by simpa using h⟩
  · cases h

end Ty

/-! ## Classes of calls -/

namespace Call

variable {mapper : Ty} {s : Selected} {name : String}

/-- The classes of a class literal that a chosen method is passed are imported. -/
theorem mem_imports_of_literal {binding : Binding} {target : Ty}
    (hb : binding ∈ (ofSelected mapper s).bindings) (hv : binding.value = .targetType target)
    (h : target.Names name) : Ty.named name ∈ (ofSelected mapper s).imports := by
  have hliteral : target ∈ classLiterals s.bindings := by
    refine List.mem_filterMap.2 ⟨binding, hb, ?_⟩
    rw [hv]
  exact List.mem_append_right _ (List.mem_flatMap.2 ⟨target, hliteral, h.mem_imports⟩)

/-- The used mapper that provides a chosen method is imported. -/
theorem mem_imports_of_provider {owner : Ty}
    (h : (ofSelected mapper s).provider = .usedMapper owner) :
    owner ∈ (ofSelected mapper s).imports := by
  have hprovider : providerOf mapper s.candidate = .usedMapper owner := h
  refine List.mem_append_left _ (List.mem_append_right _ ?_)
  rw [hprovider]
  exact List.mem_singleton_self owner

end Call

/-! ## Classes of a generated mapper -/

theorem GeneratedMethod.mem_importList_of_call {method : GeneratedMethod} {reference : Reference}
    {ty : Ty} (hr : reference ∈ method.allReferences) (hty : ty ∈ reference.call.imports) :
    ty ∈ method.importList := by
  unfold importList
  rcases List.mem_append.1 hr with hr | hr
  · obtain ⟨root, hroot, hr⟩ := List.mem_flatMap.1 hr
    have hrootList := Node.mem_importList_of_call (.call root) hr hty
    refine List.mem_append_left _ (List.mem_append_right _ ?_)
    exact List.mem_flatMap.2 ⟨root, hroot, hrootList⟩
  · obtain ⟨part, hpart, hr⟩ := List.mem_flatMap.1 hr
    have hpartList := Node.mem_importList_of_call (.assignment part.2) hr hty
    exact List.mem_append_right _ (List.mem_flatMap.2 ⟨part, hpart, hpartList⟩)

namespace GeneratedMapper

/-- A generated mapper mentions a class. -/
inductive Mentions (mapper : GeneratedMapper) (name : String) : Prop where
  | mapper (h : mapper.ty.Names name)
  | component {ty : Ty} (hty : ty ∈ mapper.componentAnnotations) (h : ty.Names name)
  | annotation {use : AnnotationUse} (huse : use ∈ mapper.annotationUses) (h : use.ty.Names name)
  | parameter {method : GeneratedMethod} {parameter : Parameter} (hm : method ∈ mapper.methods)
    (hp : parameter ∈ method.parameters) (h : parameter.ty.Names name)
  | result {method : GeneratedMethod} (hm : method ∈ mapper.methods)
    (h : method.returnType.Names name)
  | constructed {method : GeneratedMethod} {ty : Ty} (hm : method ∈ mapper.methods)
    (hc : method.creation = .construct ty) (h : ty.Names name)
  | literal {method : GeneratedMethod} {reference : Reference} {binding : Binding} {target : Ty}
    (hm : method ∈ mapper.methods) (hr : reference ∈ method.allReferences)
    (hb : binding ∈ reference.call.bindings) (hv : binding.value = .targetType target)
    (h : target.Names name)
  | provider {method : GeneratedMethod} {reference : Reference} {args : List Ty}
    (hm : method ∈ mapper.methods) (hr : reference ∈ method.allReferences)
    (hp : reference.call.provider = .usedMapper (.declared name args))

variable {mapper : GeneratedMapper} {name : String} {ty : Ty}

theorem mem_mentioned_of_method {method : GeneratedMethod} (hm : method ∈ mapper.methods)
    (h : ty ∈ method.importList) : ty ∈ mapper.mentioned :=
  List.mem_append_right _ (List.mem_flatMap.2 ⟨method, hm, h⟩)

/-- The used mapper that provides a called method is mentioned as it is. -/
theorem mem_mentioned_of_provider {method : GeneratedMethod} {reference : Reference} {s : Selected}
    (hm : method ∈ mapper.methods) (hr : reference ∈ method.allReferences)
    (hs : reference.call = .ofSelected mapper.ty s)
    (hp : reference.call.provider = .usedMapper ty) : ty ∈ mapper.mentioned := by
  refine mem_mentioned_of_method hm (GeneratedMethod.mem_importList_of_call hr ?_)
  rw [hs] at hp ⊢
  exact Call.mem_imports_of_provider hp

theorem Mentions.exists_mentioned (h : mapper.Mentions name)
    (hcalls : ∀ method ∈ mapper.methods, ∀ reference ∈ method.allReferences,
      ∃ s, reference.call = .ofSelected mapper.ty s) :
    ∃ args, Ty.declared name args ∈ mapper.mentioned := by
  cases h with
  | mapper h =>
    refine ⟨[], List.mem_append_left _ (List.mem_append_left _ (List.mem_append_left _ ?_))⟩
    exact h.mem_imports
  | component hty h =>
    refine ⟨[], List.mem_append_left _ (List.mem_append_left _ (List.mem_append_right _ ?_))⟩
    exact List.mem_flatMap.2 ⟨_, hty, h.mem_imports⟩
  | annotation huse h =>
    refine ⟨[], List.mem_append_left _ (List.mem_append_right _ ?_)⟩
    exact List.mem_flatMap.2 ⟨_, huse, h.mem_imports⟩
  | parameter hm hp h =>
    refine ⟨[], mem_mentioned_of_method hm ?_⟩
    refine List.mem_append_left _ (List.mem_append_left _ (List.mem_append_left _
      (List.mem_append_left _ ?_)))
    exact List.mem_flatMap.2 ⟨_, hp, h.mem_imports⟩
  | result hm h =>
    refine ⟨[], mem_mentioned_of_method hm ?_⟩
    exact List.mem_append_left _ (List.mem_append_left _ (List.mem_append_left _
      (List.mem_append_right _ h.mem_imports)))
  | constructed hm hc h =>
    refine ⟨[], mem_mentioned_of_method hm ?_⟩
    refine List.mem_append_left _ (List.mem_append_left _ (List.mem_append_right _ ?_))
    rw [hc]
    exact List.mem_flatMap.2 ⟨_, List.mem_singleton_self _, h.mem_imports⟩
  | literal hm hr hb hv h =>
    obtain ⟨s, hs⟩ := hcalls _ hm _ hr
    refine ⟨[], mem_mentioned_of_method hm (GeneratedMethod.mem_importList_of_call hr ?_)⟩
    rw [hs] at hb ⊢
    exact Call.mem_imports_of_literal hb hv h
  | @provider method reference args hm hr hp =>
    obtain ⟨s, hs⟩ := hcalls method hm reference hr
    exact ⟨args, mem_mentioned_of_provider hm hr hs hp⟩

theorem mem_imports : ty ∈ mapper.imports ↔
    ty ∈ mapper.mentioned ∧ ty.requiresImport = true ∧
      ty.package? ≠ mapper.implementationPackage := by
  rw [imports, List.mem_filter, mem_distinct, Bool.and_eq_true, bne_iff_ne]

end GeneratedMapper

namespace MapperDecl

/-- **The imports are complete and nothing too much.** Every import lies in a package, which is
neither that of the language nor that of the generated class; and every mentioned class that needs
an import and is not in the package of the generated class is imported. -/
theorem imports_complete (mapper : MapperDecl) (table : ClassTable) (settings : Settings) :
    let generated := mapper.generate table settings
    (∀ ty ∈ generated.imports, ∃ package, ty.package? = some package ∧ package ≠ "java.lang" ∧
      generated.implementationPackage ≠ some package) ∧
    ∀ name, generated.Mentions name → (Ty.named name).requiresImport = true →
      (Ty.named name).package? ≠ generated.implementationPackage →
      ∃ ty ∈ generated.imports, ty.qualifiedName = name := by
  intro generated
  refine ⟨fun ty hty => ?_, fun name hname hrequires hpackage => ?_⟩
  · obtain ⟨-, hrequires, hother⟩ := GeneratedMapper.mem_imports.1 hty
    obtain ⟨package, hpackage, hlang⟩ := Ty.exists_package_of_requiresImport hrequires
    refine ⟨package, hpackage, hlang, fun hsame => hother ?_⟩
    rw [hpackage, hsame]
  · obtain ⟨args, hmem⟩ := hname.exists_mentioned (mapper.exists_selected table settings)
    exact ⟨.declared name args, GeneratedMapper.mem_imports.2 ⟨hmem, hrequires, hpackage⟩, rfl⟩

end MapperDecl

/-! ## A finder of sheets -/

namespace Archive

/-- A record is filed under a key, and a file is a sheet. -/
def classes : ClassTable := .declareAll {} [.plain "docs.Key", .plain "paper.Sheet",
  { ClassDecl.plain "docs.Record" with properties := [{ name := "page", typeText := "docs.Key" }] },
  { ClassDecl.plain "files.File" with
    properties := [{ name := "page", typeText := "paper.Sheet" }] }]

/-- Finds a thing of a given class under a key. -/
def find : Method where
  name := "find"
  parameters := [{ name := "key", ty := .named "docs.Key" },
    { name := "kind", ty := .declared "java.lang.Class" [.typeVar "T"], role := .targetType }]
  returnType := .typeVar "T"
  typeParameters := ["T"]
  owner := .named "tools.Finder"
  isAbstract := false

def mapper : MapperDecl where
  ty := .named "office.FileMapper"
  methods := [{
    name := "toFile"
    parameters := [{ name := "record", ty := .named "docs.Record" }]
    returnType := .named "files.File"
    owner := .named "office.FileMapper" }]
  usedMappers := [{ ty := .named "tools.Finder", methods := [find] }]

/-- The finder is asked for a sheet. -/
theorem generated_call : ∃ method ∈ (mapper.generate classes {}).methods,
    ∃ reference ∈ method.allReferences,
      reference.call.provider = .usedMapper (.named "tools.Finder") ∧
      ∃ binding ∈ reference.call.bindings, binding.value = .targetType (.named "paper.Sheet") := by
  decide +kernel

/-- The sheet, which only a class literal mentions, is imported, and so is the finder. -/
theorem imports_complete_sheet :
    ((mapper.generate classes {}).Mentions "paper.Sheet" ∧
      ∃ ty ∈ (mapper.generate classes {}).imports, ty.qualifiedName = "paper.Sheet") ∧
    (mapper.generate classes {}).Mentions "tools.Finder" ∧
      ∃ ty ∈ (mapper.generate classes {}).imports, ty.qualifiedName = "tools.Finder" := by
  obtain ⟨method, hm, reference, hr, hprovider, binding, hbinding, hliteral⟩ := generated_call
  have hsheet : (mapper.generate classes {}).Mentions "paper.Sheet" :=
    .literal hm hr hbinding hliteral (.head [])
  have hfinder : (mapper.generate classes {}).Mentions "tools.Finder" := .provider hm hr hprovider
  obtain ⟨-, hcomplete⟩ := MapperDecl.imports_complete mapper classes {}
  exact ⟨⟨hsheet, hcomplete "paper.Sheet" hsheet (by decide) (by decide +kernel)⟩,
    hfinder, hcomplete "tools.Finder" hfinder (by decide) (by decide +kernel)⟩

end Archive

end BeanMapper
