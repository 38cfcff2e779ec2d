import BeanMapper.Mapper.Generated
import BeanMapper.Proofs.Options.Precedence

/-!
# Layers of a mapper in one

A generator looks at its layers of options in one way only: it puts the layers of a method or of a
property above them and asks which options are in force. So two lists of layers that no layers above
can tell apart lead to the same drafts (`Generator.draft_relayered`), and a mapper can carry all its
layers in one: `MapperDecl.generate_collapsed` says that the generated mapper stays as it is.
-/

namespace BeanMapper

/-! ## Drafts -/

namespace Generator

def withLayers (generator : Generator) (layers : List OptionLayer) : Generator :=
  { generator with layers }

variable {generator : Generator} {layers : List OptionLayer}
  (h : ∀ own, (generator.withLayers layers).options own = generator.options own)

include h

theorem propertyMapping_relayered (method : Method) (target : Property)
    (explicit : Option PropertyOptions) (source : Source) :
    (generator.withLayers layers).propertyMapping method target explicit source =
      generator.propertyMapping method target explicit source := by
  simp only [propertyMapping, h]
  rfl

theorem outcome_relayered (method : Method) (beans : List SourceBean) (target : Property) :
    (generator.withLayers layers).outcome method beans target =
      generator.outcome method beans target := by
  simp only [outcome, propertyMapping_relayered h]
  rfl

theorem bean_relayered (method : Method) :
    (generator.withLayers layers).bean method = generator.bean method := by
  have houtcome : (generator.withLayers layers).outcome method = generator.outcome method := by
    funext beans target
    exact outcome_relayered h method beans target
  simp only [bean, houtcome, h]
  rfl

theorem iterable_relayered (method : Method) (source : Parameter) :
    (generator.withLayers layers).iterable method source = generator.iterable method source := by
  simp only [iterable, h]
  rfl

theorem map_relayered (method : Method) (source : Parameter) :
    (generator.withLayers layers).map method source = generator.map method source := by
  simp only [map, h]
  rfl

/-- Layers that no layers above them can tell apart lead to the same drafts. -/
theorem draft_relayered (method : Method) :
    (generator.withLayers layers).draft method = generator.draft method := by
  have hsound : (generator.withLayers layers).draftSound method =
      generator.draftSound method := by
    simp only [draftSound, map_relayered h, iterable_relayered h, bean_relayered h]
    rfl
  simp only [draft, hsound]
  rfl

end Generator

/-! ## Mappers -/

namespace MapperDecl

/-- All layers of options that hold for a mapper in one: its own above its configuration, both above
the defaults of the settings. -/
def layer (mapper : MapperDecl) (settings : Settings) : OptionLayer :=
  match mapper.config with
  | some config => (mapper.options.overlay config).overlay settings.defaults
  | none => mapper.options.overlay settings.defaults

/-- The mapper that carries all its layers of options itself. -/
def collapsed (mapper : MapperDecl) (settings : Settings) : MapperDecl :=
  { mapper with options := mapper.layer settings, config := none }

theorem layer_eq_overlayAll (mapper : MapperDecl) (settings : Settings) :
    mapper.layer settings = .overlayAll (mapper.layers settings) := by
  unfold layer layers
  cases mapper.config with
  | none =>
    rw [Option.toList_none, List.nil_append, ← OptionLayer.foldl_overlay]
    rfl
  | some config =>
    rw [Option.toList_some, List.singleton_append, ← OptionLayer.foldl_overlay]
    rfl

/-- The options in force are the same above the collapsed layers. -/
theorem options_collapsed (mapper : MapperDecl) (table : ClassTable) (settings : Settings)
    (own : List OptionLayer) :
    ((mapper.collapsed settings).generator table { settings with defaults := {} }).options own =
      (mapper.generator table settings).options own := by
  have hlayers : (mapper.collapsed settings).layers { settings with defaults := {} } =
      [mapper.layer settings, {}] := rfl
  have hone : OptionLayer.overlayAll [mapper.layer settings, {}] =
      .overlayAll (mapper.layers settings) := by
    rw [OptionLayer.overlayAll_cons, ← layer_eq_overlayAll]
    exact OptionLayer.overlay_empty _
  simp only [Generator.options, generator, hlayers, Options.resolve,
    OptionLayer.overlayAll_append, hone]

theorem generate_collapsed (mapper : MapperDecl) (table : ClassTable) (settings : Settings) :
    (mapper.collapsed settings).generate table { settings with defaults := {} } =
      mapper.generate table settings := by
  have hoptions := mapper.options_collapsed table settings
  have hdraft (method : Method) :
      ((mapper.collapsed settings).generator table { settings with defaults := {} }).draft method =
        (mapper.generator table settings).draft method :=
    Generator.draft_relayered hoptions method
  have hmethods : (mapper.collapsed settings).abstractMethods = mapper.abstractMethods := rfl
  simp only [generate, hoptions, hmethods, funext hdraft]
  rfl

/-- **Layers of options can be laid over each other.** Every option comes from the first layer that
sets it; a run of layers counts as much as the one layer made of it; and a mapper that carries all
its layers in one, with no configuration and nothing in the settings below it, is generated as the
mapper itself. -/
theorem layers_collapse :
    (∀ layers, Options.resolve layers = Options.ofFirst layers) ∧
    (∀ before first rest after,
      Options.resolve (before ++ rest.foldl OptionLayer.overlay first :: after) =
        Options.resolve (before ++ (first :: rest) ++ after)) ∧
    ∀ (mapper : MapperDecl) (table : ClassTable) (settings : Settings),
      (mapper.collapsed settings).generate table { settings with defaults := {} } =
        mapper.generate table settings :=
  ⟨Options.resolve_eq_ofFirst, Options.resolve_collapse, generate_collapsed⟩

end MapperDecl

end BeanMapper
