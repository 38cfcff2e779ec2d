import BeanMapper.Generation.Bean
import BeanMapper.Proofs.Generation.Paths

/-!
# Renaming the source parameter

If a method has one source parameter, another name for it changes nothing in what a path reads but
that name, whatever properties there are. Only the first name of the path is no such name: a path
that starts with the parameter's name is one from the parameter, and what is read is what the other
names lead to (`Generator.ofPath_renamed`).
-/

namespace BeanMapper

/-! ## Methods -/

def Parameter.renameSource (name : String) (parameter : Parameter) : Parameter :=
  if parameter.role = .source then { parameter with name } else parameter

theorem Parameter.role_renameSource (name : String) (parameter : Parameter) :
    (parameter.renameSource name).role = parameter.role := by
  unfold renameSource
  split <;> rfl

theorem Parameter.ty_renameSource (name : String) (parameter : Parameter) :
    (parameter.renameSource name).ty = parameter.ty := by
  unfold renameSource
  split <;> rfl

namespace Method

/-- The method with another name for its source parameters. -/
def renameSource (method : Method) (name : String) : Method :=
  { method with parameters := method.parameters.map (Parameter.renameSource name) }

theorem sources_renameSource (method : Method) (name : String) :
    (method.renameSource name).sources =
      method.sources.map fun parameter => { parameter with name } := by
  simp only [Signature.sources, Signature.withRole, renameSource, List.filter_map,
    Function.comp_def, Parameter.role_renameSource]
  refine List.map_congr_left fun parameter hmem => ?_
  have hrole : parameter.role = .source := of_decide_eq_true (List.mem_filter.1 hmem).2
  rw [Parameter.renameSource, if_pos hrole]

theorem resultType_renameSource (method : Method) (name : String) :
    (method.renameSource name).resultType = method.resultType := by
  simp only [Signature.resultType, Signature.mappingTarget?, renameSource, List.find?_map,
    Function.comp_def, Parameter.role_renameSource]
  cases method.parameters.find? fun parameter => parameter.role = .mappingTarget with
  | none => rfl
  | some target => exact target.ty_renameSource name

end Method

namespace Generator

variable {table : ClassTable} {method : Method} {parameter : Parameter}
  {beans : List SourceBean} {targets : List Property}

theorem beansOf_single (hsources : method.sources = [parameter]) :
    beansOf table method =
      (propertiesOf table parameter.ty).bind fun properties =>
        (propertiesOf table method.resultType).map fun targets =>
          ([{ parameter, properties }], targets.filter Property.isWritable) := by
  simp only [beansOf, hsources, List.mapM_cons, List.mapM_nil, bind, Except.bind, pure,
    Except.pure]
  cases propertiesOf table parameter.ty with
  | error message => rfl
  | ok properties => cases propertiesOf table method.resultType <;> rfl

/-- The bean of the one source parameter, before and after it gets another name. -/
theorem beansOf_renameSource (hsources : method.sources = [parameter])
    (h : beansOf table method = .ok (beans, targets)) (name : String) :
    ∃ properties, beans = [{ parameter, properties }] ∧
      beansOf table (method.renameSource name) =
        .ok ([{ parameter := { parameter with name }, properties }], targets) := by
  have hrenamed : (method.renameSource name).sources = [{ parameter with name }] := by
    rw [Method.sources_renameSource, hsources, List.map_singleton]
  rw [beansOf_single hsources] at h
  rw [beansOf_single hrenamed, Method.resultType_renameSource]
  cases hproperties : propertiesOf table parameter.ty with
  | error message => rw [hproperties] at h; cases h
  | ok properties =>
    rw [hproperties] at h
    cases htargets : propertiesOf table method.resultType with
    | error message => rw [htargets] at h; cases h
    | ok found =>
      rw [htargets] at h
      cases h
      exact ⟨properties, rfl, rfl⟩

/-- **The name of the source parameter matters only at the start of a path.** Let a method have one
source parameter, and let a path not start with its name. Under another name for the parameter the
path leads through the same properties or fails with the same message: the getters, the type, the
null checks and the presence check are those there were, with the new name in front. Only if the
path starts with the new name, this is now the parameter, and the properties are those of the other
names. -/
theorem ofPath_renamed (path name : String) (hsources : method.sources = [parameter])
    (hpath : (Text.parts '.' path).head? ≠ some parameter.name)
    (hbeans : beansOf table method = .ok (beans, targets)) :
    ∃ renamed, beansOf table (method.renameSource name) = .ok (renamed, targets) ∧
      Source.ofPath table beans path =
        (Source.trail table path parameter.ty (Text.parts '.' path)).map
          (Source.through parameter) ∧
      ((Text.parts '.' path).head? ≠ some name →
        Source.ofPath table renamed path =
          (Source.trail table path parameter.ty (Text.parts '.' path)).map
            (Source.through { parameter with name })) ∧
      ((Text.parts '.' path).head? = some name →
        Source.ofPath table renamed path =
          (Source.trail table path parameter.ty (Text.parts '.' path).tail).map
            (Source.through { parameter with name })) := by
  obtain ⟨properties, rfl, hrenamed⟩ := beansOf_renameSource hsources hbeans name
  -- both methods have one source bean, and a path through it starts with its name or does not
  have hbefore := Source.startOfPath?_single { parameter, properties } path
  rw [if_neg hpath] at hbefore
  have hafter := Source.startOfPath?_single
    { parameter := { parameter with name }, properties } path
  refine ⟨_, hrenamed, Source.ofPath_of_start hbefore, fun hother => ?_, fun hfirst => ?_⟩
  · rw [if_neg hother] at hafter
    exact Source.ofPath_of_start hafter
  · rw [if_pos hfirst] at hafter
    exact Source.ofPath_of_start hafter

end Generator

/-! ## Cards of nodes -/

namespace Nodes

/-- A node has a label and leads to the next one, and a card has a label. -/
def classes : ClassTable := .declareAll {} [.plain "list.Label",
  { ClassDecl.plain "list.Node" with
    properties := [{ name := "next", typeText := "list.Node" },
      { name := "label", typeText := "list.Label" }] },
  { ClassDecl.plain "list.Card" with
    properties := [{ name := "label", typeText := "list.Label" }] }]

def node : Parameter := { name := "node", ty := .named "list.Node" }

/-- A card bears the label of the next node. -/
def toCard : Method where
  name := "toCard"
  parameters := [node]
  returnType := .named "list.Card"
  owner := .named "list.CardMapper"
  options := { mappings := [{ target := "label", source := some "next.label" }] }

def property (name : String) (ty : Ty) : Property where
  name := name
  ty := ty
  isReadable := true
  isWritable := true
  hasPresenceChecker := false

def trail : List Property :=
  [property "next" (.named "list.Node"), property "label" (.named "list.Label")]

/-- The parameter may have the name of another property. -/
theorem ofPath_renamed_label : toCard.sources = [node] ∧
    (Text.parts '.' "next.label").head? ≠ some node.name ∧
    ∃ beans renamed targets, Generator.beansOf classes toCard = .ok (beans, targets) ∧
      Generator.beansOf classes (toCard.renameSource "label") = .ok (renamed, targets) ∧
      Source.ofPath classes beans "next.label" = .ok (.through node trail) ∧
      Source.ofPath classes renamed "next.label" =
        .ok (.through { node with name := "label" } trail) ∧
      (Source.through node trail).value.reference = "node.getNext().getLabel()" ∧
      (Source.through { node with name := "label" } trail).value.reference =
        "label.getNext().getLabel()" := by
  have hpath : (Text.parts '.' "next.label").head? ≠ some node.name := by decide +kernel
  have hother : (Text.parts '.' "next.label").head? ≠ some "label" := by decide +kernel
  have hok : ∃ beans targets, Generator.beansOf classes toCard = .ok (beans, targets) :=
    ⟨_, _, rfl⟩
  have htrail : Source.trail classes "next.label" node.ty (Text.parts '.' "next.label") =
    .ok trail := rfl
  obtain ⟨beans, targets, hbeans⟩ := hok
  obtain ⟨renamed, hrenamed, hbefore, hafter, -⟩ :=
    Generator.ofPath_renamed "next.label" "label" rfl hpath hbeans
  rw [htrail] at hbefore hafter
  exact ⟨rfl, hpath, beans, renamed, targets, hbeans, hrenamed, hbefore, hafter hother,
    rfl, rfl⟩

/-- A parameter that has the name of the path's first property is taken for the start of the path,
and the label is that of the node itself. -/
theorem not_always_read_alike : ¬∀ (table : ClassTable) (method : Method) (parameter : Parameter)
    (path name : String) (beans renamed : List SourceBean) (targets others : List Property),
    method.sources = [parameter] → (Text.parts '.' path).head? ≠ some parameter.name →
    (∀ other ∈ method.parameters, other ≠ parameter → other.name ≠ name) →
    Generator.beansOf table method = .ok (beans, targets) →
    Generator.beansOf table (method.renameSource name) = .ok (renamed, others) →
    ∀ before, Source.ofPath table beans path = .ok before →
      ∃ after, Source.ofPath table renamed path = .ok after ∧
        after.value.ty = before.value.ty ∧
        after.value.pathChecks.length = before.value.pathChecks.length := by
  intro hall
  have hpath : (Text.parts '.' "next.label").head? ≠ some node.name := by decide +kernel
  have hnames : ∀ other ∈ toCard.parameters, other ≠ node → other.name ≠ "next" := by
    decide +kernel
  obtain ⟨after, hafter, -, hchecks⟩ := hall classes toCard node "next.label" "next" _ _ _ _
    rfl hpath hnames rfl rfl (.through node trail) rfl
  have hread : after = .through { node with name := "next" } trail.tail :=
    (Except.ok.inj hafter).symm
  rw [hread] at hchecks
  cases hchecks

end Nodes

end BeanMapper
