import BeanMapper.Generation.Drafting
import BeanMapper.Mapper.Annotations
import BeanMapper.Settings.Basic

/-!
The generated mapper: all that is needed to write the class that implements a declared mapper. A
method that cannot be generated is left out, and the reports say why.
-/

namespace BeanMapper

/-- The class that implements a mapper. -/
structure GeneratedMapper where
  ty : Ty
  options : Options
  suppressTimestamp : Bool
  componentAnnotations : List Ty
  annotationUses : List AnnotationUse
  methods : List GeneratedMethod
  reports : List Report

namespace GeneratedMapper

def hasErrors (mapper : GeneratedMapper) : Bool := mapper.reports.any Report.isError

def method? (mapper : GeneratedMapper) (name : String) : Option GeneratedMethod :=
  mapper.methods.find? fun method => method.name = name

def implementationName (mapper : GeneratedMapper) : String :=
  mapper.options.implementationNameFor mapper.ty.simpleName

def implementationPackage (mapper : GeneratedMapper) : Option String :=
  mapper.options.implementationPackageFor mapper.ty.package?

def calls (mapper : GeneratedMapper) : List Call := mapper.methods.flatMap GeneratedMethod.calls

/-- The helpers that the class has to carry. -/
def usedHelpers (mapper : GeneratedMapper) : List String :=
  distinct (mapper.calls.filterMap fun call =>
    match call.provider with
    | .helper => some call.name
    | _ => none)

/-- The mappers that the class holds instances of. -/
def usedMappers (mapper : GeneratedMapper) : List Ty :=
  distinct (mapper.calls.filterMap fun call =>
    match call.provider with
    | .usedMapper owner => some owner
    | _ => none)

/-- The classes that the class mentions, wherever they are. -/
def mentioned (mapper : GeneratedMapper) : List Ty :=
  mapper.ty.imports ++
    mapper.componentAnnotations.flatMap Ty.imports ++
    mapper.annotationUses.flatMap (fun use => use.ty.imports) ++
    mapper.methods.flatMap GeneratedMethod.importList

/-- The classes to import: those mentioned that lie in a package of their own. -/
def imports (mapper : GeneratedMapper) : List Ty :=
  (distinct mapper.mentioned).filter fun ty =>
    ty.requiresImport && ty.package? != mapper.implementationPackage

end GeneratedMapper

namespace MapperDecl

/-- The layers of options that hold for a whole mapper, the highest first. -/
def layers (mapper : MapperDecl) (settings : Settings) : List OptionLayer :=
  mapper.options :: (mapper.config.toList ++ [settings.defaults])

/-- What the methods of a mapper are generated from. -/
def generator (mapper : MapperDecl) (table : ClassTable) (settings : Settings) : Generator where
  table := table
  mapper := mapper.ty
  candidates := mapper.candidates
  layers := mapper.layers settings

def generate (mapper : MapperDecl) (table : ClassTable) (settings : Settings) : GeneratedMapper :=
  let generator := mapper.generator table settings
  let options := generator.options []
  let drafts := mapper.abstractMethods.map generator.draft
  let (kept, messages) := AnnotationUse.keep [] mapper.annotationUses
  { ty := mapper.ty
    options
    suppressTimestamp := settings.suppressTimestamp
    componentAnnotations := (options.componentModel.addedNames kept).map Ty.named
    annotationUses := kept
    methods := drafts.filterMap Draft.method
    reports := drafts.flatMap Draft.reports ++
      (Draft.failed mapper.ty.simpleName messages).reports }

variable {mapper : MapperDecl} {table : ClassTable} {settings : Settings} {method : Method}

theorem mem_methods_of_draft {generated : GeneratedMethod} (hm : method ∈ mapper.abstractMethods)
    (hg : ((mapper.generator table settings).draft method).method = some generated) :
    generated ∈ (mapper.generate table settings).methods :=
  List.mem_filterMap.2 ⟨_, List.mem_map_of_mem hm, hg⟩

theorem reports_draft_subset (hm : method ∈ mapper.abstractMethods) :
    ((mapper.generator table settings).draft method).reports ⊆
      (mapper.generate table settings).reports := fun _ hreport =>
  List.mem_append_left _ (List.mem_flatMap.2 ⟨_, List.mem_map_of_mem hm, hreport⟩)

end MapperDecl

end BeanMapper
