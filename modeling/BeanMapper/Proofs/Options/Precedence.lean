import BeanMapper.Options.Layer

/-!
# Precedence of option layers

Every option in force comes from the first layer that sets it; the null strategies of iterables and
maps come from the first layer that sets the specific one, and only where no layer does from the
first that sets the general one (`Options.resolve_eq_ofFirst`). So neighbouring layers can be laid
over each other beforehand: `Options.resolve_collapse` says that this changes no option.
-/

namespace BeanMapper

namespace OptionLayer

/-! ## Layers in one -/

theorem overlayAll_cons (layer : OptionLayer) (rest : List OptionLayer) :
    overlayAll (layer :: rest) = layer.overlay (overlayAll rest) := rfl

theorem overlayAll_append (before after : List OptionLayer) :
    overlayAll (before ++ after) = (overlayAll before).overlay (overlayAll after) := by
  induction before with
  | nil => exact (empty_overlay _).symm
  | cons layer rest ih =>
    rw [List.cons_append, overlayAll_cons, overlayAll_cons, ih, overlay_assoc]

/-- Laid over each other from the top, layers are the same as from the bottom. -/
theorem foldl_overlay (first : OptionLayer) (rest : List OptionLayer) :
    rest.foldl overlay first = overlayAll (first :: rest) := by
  induction rest generalizing first with
  | nil => exact (overlay_empty first).symm
  | cons second rest ih =>
    rw [List.foldl_cons, ih, overlayAll_cons, overlayAll_cons, overlayAll_cons, overlay_assoc]

/-- Among others, a run of layers is the same as the one layer made of it. -/
theorem overlayAll_collapse (before : List OptionLayer) (first : OptionLayer)
    (rest after : List OptionLayer) :
    overlayAll (before ++ rest.foldl overlay first :: after) =
      overlayAll (before ++ (first :: rest) ++ after) := by
  rw [List.append_assoc, overlayAll_append before, overlayAll_append before, overlayAll_append,
    overlayAll_cons, foldl_overlay]

/-! ## The first layer that sets an option -/

/-- The layer that sets every option to what the first of some layers sets it to. -/
def firsts (layers : List OptionLayer) : OptionLayer where
  nullValueCheck := layers.findSome? nullValueCheck
  nullValueProperty := layers.findSome? nullValueProperty
  nullValueMapping := layers.findSome? nullValueMapping
  nullValueIterable := layers.findSome? nullValueIterable
  nullValueMap := layers.findSome? nullValueMap
  collectionMapping := layers.findSome? collectionMapping
  unmappedTarget := layers.findSome? unmappedTarget
  unmappedSource := layers.findSome? unmappedSource
  componentModel := layers.findSome? componentModel
  injectionStrategy := layers.findSome? injectionStrategy
  implementationName := layers.findSome? implementationName
  implementationPackage := layers.findSome? implementationPackage

theorem or_findSome? {α : Type} (option : OptionLayer → Option α) (layer : OptionLayer)
    (rest : List OptionLayer) :
    (option layer).or (rest.findSome? option) = (layer :: rest).findSome? option := by
  rw [List.findSome?_cons]
  cases option layer with
  | none => rfl
  | some value => rfl

theorem overlayAll_eq_firsts (layers : List OptionLayer) : overlayAll layers = firsts layers := by
  induction layers with
  | nil => rfl
  | cons layer rest ih =>
    rw [overlayAll_cons, ih]
    simp only [overlay, firsts, or_findSome?]

end OptionLayer

/-! ## Options in force -/

namespace Options

/-- The options in force, each from the first layer that sets it, or else its default. -/
def ofFirst (layers : List OptionLayer) : Options :=
  let first {α : Type} (option : OptionLayer → Option α) (default : α) : α :=
    (layers.findSome? option).getD default
  let general := first OptionLayer.nullValueMapping .returnNull
  { nullValueCheck := first OptionLayer.nullValueCheck .onImplicitConversion
    nullValueProperty := first OptionLayer.nullValueProperty .setToNull
    nullValueMapping := general
    nullValueIterable := first OptionLayer.nullValueIterable general
    nullValueMap := first OptionLayer.nullValueMap general
    collectionMapping := first OptionLayer.collectionMapping .accessorOnly
    unmappedTarget := first OptionLayer.unmappedTarget .warn
    unmappedSource := first OptionLayer.unmappedSource .ignore
    componentModel := first OptionLayer.componentModel .default
    injectionStrategy := first OptionLayer.injectionStrategy .field
    implementationName := first OptionLayer.implementationName (classNamePlaceholder ++ "Impl")
    implementationPackage := first OptionLayer.implementationPackage packageNamePlaceholder }

/-- Every option comes from the first layer that sets it. -/
theorem resolve_eq_ofFirst (layers : List OptionLayer) : resolve layers = ofFirst layers := by
  rw [resolve, OptionLayer.overlayAll_eq_firsts]
  rfl

/-- Laying a run of layers over each other beforehand changes no option. -/
theorem resolve_collapse (before : List OptionLayer) (first : OptionLayer)
    (rest after : List OptionLayer) :
    resolve (before ++ rest.foldl OptionLayer.overlay first :: after) =
      resolve (before ++ (first :: rest) ++ after) :=
  congrArg ofLayer (OptionLayer.overlayAll_collapse before first rest after)

end Options

end BeanMapper
