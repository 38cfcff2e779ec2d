import BeanMapper.Document
import BeanMapper.Options.Strategy
import BeanMapper.Text.Blank
import BeanMapper.Text.Cut

/-!
Options come in layers: a mapping, its mapper, a shared configuration and the generator's settings
may each set some of them. Of two layers the higher wins, field by field; what no layer sets has a
default, and the null strategies of iterable and map methods fall back to the general one first.
-/

namespace BeanMapper

/-- The options that one layer sets. -/
structure OptionLayer where
  nullValueCheck : Option NullValueCheck := none
  nullValueProperty : Option NullValueProperty := none
  nullValueMapping : Option NullValueMapping := none
  nullValueIterable : Option NullValueMapping := none
  nullValueMap : Option NullValueMapping := none
  collectionMapping : Option CollectionMapping := none
  unmappedTarget : Option ReportingPolicy := none
  unmappedSource : Option ReportingPolicy := none
  componentModel : Option ComponentModel := none
  injectionStrategy : Option InjectionStrategy := none
  implementationName : Option String := none
  implementationPackage : Option String := none
  deriving DecidableEq, Repr, Inhabited

namespace OptionLayer

/-- The names of the options. -/
def keys : List String := [
  "null_value_check_strategy",
  "null_value_property_mapping_strategy",
  "null_value_mapping_strategy",
  "null_value_iterable_mapping_strategy",
  "null_value_map_mapping_strategy",
  "collection_mapping_strategy",
  "unmapped_target_policy",
  "unmapped_source_policy",
  "component_model",
  "injection_strategy",
  "implementation_name",
  "implementation_package"]

/-- Both layers in one, the first above the second. -/
def overlay (high low : OptionLayer) : OptionLayer where
  nullValueCheck := high.nullValueCheck.or low.nullValueCheck
  nullValueProperty := high.nullValueProperty.or low.nullValueProperty
  nullValueMapping := high.nullValueMapping.or low.nullValueMapping
  nullValueIterable := high.nullValueIterable.or low.nullValueIterable
  nullValueMap := high.nullValueMap.or low.nullValueMap
  collectionMapping := high.collectionMapping.or low.collectionMapping
  unmappedTarget := high.unmappedTarget.or low.unmappedTarget
  unmappedSource := high.unmappedSource.or low.unmappedSource
  componentModel := high.componentModel.or low.componentModel
  injectionStrategy := high.injectionStrategy.or low.injectionStrategy
  implementationName := high.implementationName.or low.implementationName
  implementationPackage := high.implementationPackage.or low.implementationPackage

/-- All layers in one, the first above all others. -/
def overlayAll (layers : List OptionLayer) : OptionLayer := layers.foldr overlay {}

def isEmpty (layer : OptionLayer) : Bool := layer = {}

/-- The serialized form: every option by name, the unset ones null. -/
def document (layer : OptionLayer) : Document :=
  let choice {α : Type} [Keyworded α] : Option α → Document :=
    Document.optional fun value => .text (Keyworded.keyword value)
  .object (keys.zip [
    choice layer.nullValueCheck,
    choice layer.nullValueProperty,
    choice layer.nullValueMapping,
    choice layer.nullValueIterable,
    choice layer.nullValueMap,
    choice layer.collectionMapping,
    choice layer.unmappedTarget,
    choice layer.unmappedSource,
    choice layer.componentModel,
    choice layer.injectionStrategy,
    .optionalText layer.implementationName,
    .optionalText layer.implementationPackage])

theorem overlay_assoc (a b c : OptionLayer) :
    (a.overlay b).overlay c = a.overlay (b.overlay c) := by
  simp [overlay, Option.or_assoc]

theorem overlay_empty (a : OptionLayer) : a.overlay {} = a := by simp [overlay]

theorem empty_overlay (a : OptionLayer) : overlay {} a = a := by simp [overlay]

end OptionLayer

/-- The options in force. -/
structure Options where
  nullValueCheck : NullValueCheck
  nullValueProperty : NullValueProperty
  nullValueMapping : NullValueMapping
  nullValueIterable : NullValueMapping
  nullValueMap : NullValueMapping
  collectionMapping : CollectionMapping
  unmappedTarget : ReportingPolicy
  unmappedSource : ReportingPolicy
  componentModel : ComponentModel
  injectionStrategy : InjectionStrategy
  implementationName : String
  implementationPackage : String
  deriving DecidableEq, Repr

namespace Options

/-- Stands for the simple name of the mapper in the name of its implementation. -/
def classNamePlaceholder : String := "<CLASS_NAME>"

/-- Stands for the package of the mapper in the package of its implementation. -/
def packageNamePlaceholder : String := "<PACKAGE_NAME>"

/-- The options that a single layer leaves in force. -/
def ofLayer (layer : OptionLayer) : Options :=
  -- what is to be done for containers is by default what is to be done in general
  let general := layer.nullValueMapping.getD .returnNull
  { nullValueCheck := layer.nullValueCheck.getD .onImplicitConversion
    nullValueProperty := layer.nullValueProperty.getD .setToNull
    nullValueMapping := general
    nullValueIterable := layer.nullValueIterable.getD general
    nullValueMap := layer.nullValueMap.getD general
    collectionMapping := layer.collectionMapping.getD .accessorOnly
    unmappedTarget := layer.unmappedTarget.getD .warn
    unmappedSource := layer.unmappedSource.getD .ignore
    componentModel := layer.componentModel.getD .default
    injectionStrategy := layer.injectionStrategy.getD .field
    implementationName := layer.implementationName.getD (classNamePlaceholder ++ "Impl")
    implementationPackage := layer.implementationPackage.getD packageNamePlaceholder }

/-- The options that a list of layers leaves in force, the highest layer first. -/
def resolve (layers : List OptionLayer) : Options := ofLayer (.overlayAll layers)

def implementationNameFor (options : Options) (mapper : String) : String :=
  Text.replace classNamePlaceholder mapper options.implementationName

/-- The package of the implementation of a mapper, without dots at either end; a mapper without a
package leaves nothing in the placeholder's place. -/
def implementationPackageFor (options : Options) (package : Option String) : Option String :=
  let filled :=
    Text.replace packageNamePlaceholder (package.getD "") options.implementationPackage
  match Text.trimBoth (· == '.') filled.toList with
  | [] => none
  | text => some (String.ofList text)

def document (options : Options) : Document :=
  let choice {α : Type} [Keyworded α] (value : α) : Document := .text (Keyworded.keyword value)
  .object (OptionLayer.keys.zip [
    choice options.nullValueCheck,
    choice options.nullValueProperty,
    choice options.nullValueMapping,
    choice options.nullValueIterable,
    choice options.nullValueMap,
    choice options.collectionMapping,
    choice options.unmappedTarget,
    choice options.unmappedSource,
    choice options.componentModel,
    choice options.injectionStrategy,
    .text options.implementationName,
    .text options.implementationPackage])

end Options

end BeanMapper
