import BeanMapper.Generation.Source

/-!
# What a path reads

A path is read in two halves. Which properties it leads through depends on the type that it starts
from (`Source.along`, and as a relation `Source.LeadsOn`), and the name of the parameter stands in
front of their getters and nowhere else (`Source.through`). `Source.follow_eq` takes the walk along
a path apart into the two, `Source.ofPath_of_start` says what a path reads once it is known where it
starts, and `Source.through_of_candidates` that constants apart every source is read in this way.
-/

namespace BeanMapper

theorem ClassTable.name_of_property? {table : ClassTable} {ty : Ty} {name : String}
    {property : Property} (h : table.property? ty name = .ok (some property)) :
    property.name = name := by
  simp only [property?, bind, Except.bind] at h
  split at h
  · cases h
  · rename_i found _
    have hname := List.find?_some (Except.ok.inj h)
    exact of_decide_eq_true hname

namespace Source

variable {table : ClassTable} {parameter : Parameter} {properties : List Property}
  {beans : List SourceBean} {path : String} {names : List String}

/-! ## Properties along a path -/

/-- The readable properties of the names of a path, none if one of them is missing. -/
def along (table : ClassTable) (ty : Ty) :
    List String → Except TypeSyntaxError (Option (List Property))
  | [] => .ok (some [])
  | name :: rest => do
    match (← table.property? ty name).filter Property.isReadable with
    | none => .ok none
    | some property => return (← along table property.ty rest).map (property :: ·)

/-- The properties that a path leads through, or the message that it leads nowhere. -/
def trail (table : ClassTable) (path : String) (ty : Ty) (names : List String) :
    Except Message (List Property) :=
  match along table ty names with
  | .error error => .error (.invalidType path error.message)
  | .ok none => .error (.unknownSourceProperty path)
  | .ok (some properties) => .ok properties

/-- The steps to properties, each from the one before. -/
def stepsTo (start : String) : List Property → List Step
  | [] => []
  | property :: rest =>
    let step := stepTo start property
    step :: stepsTo step.reference rest

/-- The names of a path decide what it leads through, and the expression that it starts from is
written in front of the getters. -/
theorem follow_eq (ty : Ty) (start : String) (names : List String) :
    follow table ty start names = (along table ty names).map (Option.map (stepsTo start)) := by
  induction names generalizing ty start with
  | nil => rfl
  | cons name rest ih =>
    simp only [follow, along, bind, Except.bind, pure, Except.pure]
    cases table.property? ty name with
    | error error => rfl
    | ok found =>
      dsimp only
      cases found.filter Property.isReadable with
      | none => rfl
      | some property =>
        have hty : (stepTo start property).ty = property.ty := rfl
        dsimp only
        rw [ih, hty]
        cases along table property.ty rest with
        | error error => rfl
        | ok others => cases others <;> rfl

theorem names_of_along {ty : Ty} {names : List String}
    (h : along table ty names = .ok (some properties)) :
    properties.map Property.name = names := by
  induction names generalizing ty properties with
  | nil => cases h; rfl
  | cons name rest ih =>
    simp only [along, bind, Except.bind, pure, Except.pure] at h
    split at h
    · cases h
    · rename_i found hfound
      split at h
      · cases h
      · rename_i property hproperty
        split at h
        · cases h
        · rename_i others hothers
          cases others with
          | none => cases h
          | some others =>
            cases h
            obtain ⟨hfound', -⟩ := Option.filter_eq_some_iff.1 hproperty
            rw [List.map_cons, ih hothers, ClassTable.name_of_property? (hfound' ▸ hfound)]

/-! ## Properties that lead on -/

/-- Properties lead on from a type: each is a readable property of the type of the one before. -/
inductive LeadsOn (table : ClassTable) : Ty → List Property → Prop where
  | nil (ty : Ty) : LeadsOn table ty []
  | cons {ty : Ty} {property : Property} {rest : List Property}
    (hfound : table.property? ty property.name = .ok (some property))
    (hreadable : property.isReadable = true) (hrest : LeadsOn table property.ty rest) :
    LeadsOn table ty (property :: rest)

theorem leadsOn_of_along {ty : Ty} (h : along table ty names = .ok (some properties)) :
    LeadsOn table ty properties := by
  induction names generalizing ty properties with
  | nil => cases h; exact .nil ty
  | cons name rest ih =>
    simp only [along, bind, Except.bind, pure, Except.pure] at h
    split at h
    · cases h
    · rename_i found hfound
      split at h
      · cases h
      · rename_i property hproperty
        split at h
        · cases h
        · rename_i others hothers
          cases others with
          | none => cases h
          | some others =>
            cases h
            obtain ⟨rfl, hreadable⟩ := Option.filter_eq_some_iff.1 hproperty
            have hname := ClassTable.name_of_property? hfound
            exact .cons (hname.symm ▸ hfound) hreadable (ih hothers)

theorem LeadsOn.along_eq {ty : Ty} (h : LeadsOn table ty properties) :
    along table ty (properties.map Property.name) = .ok (some properties) := by
  induction h with
  | nil => rfl
  | cons hfound hreadable _ ih =>
    simp [along, bind, Except.bind, pure, Except.pure, hfound, hreadable, ih, Option.filter]

/-- A path has properties to lead through exactly if they lead on and bear its names. -/
theorem along_eq_some_iff {ty : Ty} : along table ty names = .ok (some properties) ↔
    LeadsOn table ty properties ∧ properties.map Property.name = names := by
  constructor
  · intro h
    exact ⟨leadsOn_of_along h, names_of_along h⟩
  · rintro ⟨h, rfl⟩
    exact h.along_eq

/-! ## Expressions along a path -/

/-- The expression that reads properties one after the other. -/
def reading (start : String) (properties : List Property) : String :=
  properties.foldl (fun expression property => expression ++ "." ++ property.getterName ++ "()")
    start

/-- The expressions on the way, one for each property. -/
def readings (start : String) : List Property → List String
  | [] => []
  | property :: rest =>
    let next := reading start [property]
    next :: readings next rest

/-- The value at the end of properties: it is read by all of their getters, it is there if no
expression on the way is null, and the last property may have a check of its own. -/
def through (parameter : Parameter) (properties : List Property) : Source :=
  match properties.getLast? with
  | none => ofParameter parameter
  | some last =>
    let before := properties.dropLast
    let names := properties.map Property.name
    { value := {
        parameter := parameter.name
        reference := reading parameter.name properties
        ty := last.ty
        path := parameter.name ++ "." ++ String.intercalate "." names
        pathChecks := readings parameter.name before }
      presence := (stepTo (reading parameter.name before) last).presence
      property := names.head?.map fun first => (parameter.name, first) }

theorem stepsTo_concat (start : String) (before : List Property) (last : Property) :
    stepsTo start (before ++ [last]) =
      stepsTo start before ++ [stepTo (reading start before) last] := by
  induction before generalizing start with
  | nil => rfl
  | cons property rest ih =>
    rw [List.cons_append, stepsTo, ih]
    rfl

theorem map_reference_stepsTo (start : String) (properties : List Property) :
    (stepsTo start properties).map Step.reference = readings start properties := by
  induction properties generalizing start with
  | nil => rfl
  | cons property rest ih =>
    rw [stepsTo, List.map_cons, ih]
    rfl

theorem reading_concat (start : String) (before : List Property) (last : Property) :
    reading start (before ++ [last]) = (stepTo (reading start before) last).reference := by
  rw [reading, List.foldl_append]
  rfl

theorem ofSteps_stepsTo (parameter : Parameter) (properties : List Property) :
    ofSteps parameter (properties.map Property.name) (stepsTo parameter.name properties) =
      through parameter properties := by
  rcases List.eq_nil_or_concat properties with rfl | ⟨before, last, rfl⟩
  · rfl
  · rw [List.concat_eq_append]
    have hfirst : ∃ first rest, (before ++ [last]).map Property.name = first :: rest := by
      cases before <;> exact ⟨_, _, rfl⟩
    obtain ⟨first, rest, hnames⟩ := hfirst
    simp only [ofSteps, through, hnames, stepsTo_concat, List.getLast?_concat,
      List.dropLast_concat, map_reference_stepsTo, reading_concat, List.head?_cons, Option.map_some]
    rfl

/-! ## Paths -/

theorem ofPath_of_start
    (h : startOfPath? beans path = some (parameter, names)) :
    ofPath table beans path =
      (trail table path parameter.ty names).map (through parameter) := by
  unfold ofPath trail
  rw [h]
  dsimp only
  rw [follow_eq]
  cases halong : along table parameter.ty names with
  | error error => rfl
  | ok found =>
    cases found with
    | none => rfl
    | some properties =>
      have hmade := ofSteps_stepsTo parameter properties
      rw [names_of_along halong] at hmade
      exact congrArg Except.ok hmade

theorem ofPath_eq_ok_iff {source : Source} (h : startOfPath? beans path = some (parameter, names)) :
    ofPath table beans path = .ok source ↔ ∃ properties, LeadsOn table parameter.ty properties ∧
      properties.map Property.name = names ∧ source = through parameter properties := by
  rw [ofPath_of_start h, trail]
  constructor
  · intro hok
    split at hok
    · cases hok
    · cases hok
    · rename_i properties halong
      cases hok
      obtain ⟨hleads, hnames⟩ := along_eq_some_iff.1 halong
      exact ⟨properties, hleads, hnames, rfl⟩
  · rintro ⟨properties, hleads, hnames, rfl⟩
    rw [along_eq_some_iff.2 ⟨hleads, hnames⟩]
    rfl

/-- A path starts from a source parameter that it names, or else from the only one. -/
theorem startOfPath?_cases (h : startOfPath? beans path = some (parameter, names)) :
    ∃ bean ∈ beans, bean.parameter = parameter ∧
      (Text.parts '.' path = parameter.name :: names ∨
        beans = [bean] ∧ Text.parts '.' path = names) := by
  unfold startOfPath? at h
  dsimp only at h
  split at h
  · rename_i bean hbean
    have hhead : (Text.parts '.' path).head? = some bean.parameter.name := by
      simpa using List.find?_some hbean
    cases h
    refine ⟨bean, List.mem_of_find?_eq_some hbean, rfl, Or.inl ?_⟩
    obtain ⟨rest, hparts⟩ := List.head?_eq_some_iff.1 hhead
    rw [hparts]
    rfl
  · split at h
    · rename_i bean _
      cases h
      exact ⟨bean, List.mem_singleton_self bean, rfl, Or.inr ⟨rfl, rfl⟩⟩
    · cases h

/-- Where there is one bean, its name at the start of a path is left out. -/
theorem startOfPath?_single (bean : SourceBean) (path : String) :
    startOfPath? [bean] path = some (bean.parameter,
      if (Text.parts '.' path).head? = some bean.parameter.name then (Text.parts '.' path).tail
      else Text.parts '.' path) := by
  unfold startOfPath?
  by_cases hprefixed : (Text.parts '.' path).head? = some bean.parameter.name <;>
    simp [hprefixed]

/-! ## Sources -/

/-- A property of a parameter is read like a path of one name. -/
theorem ofProperty_eq_through (parameter : Parameter) (property : Property) :
    ofProperty parameter property = through parameter [property] :=
  ofSteps_stepsTo parameter [property]

/-- A path leads from a parameter through properties with the names that are written in it. -/
theorem through_of_ofPath {source : Source} (h : ofPath table beans path = .ok source) :
    ∃ bean ∈ beans, ∃ properties, source = through bean.parameter properties ∧
      ∀ property ∈ properties, property.name ∈ Text.parts '.' path := by
  cases hstart : startOfPath? beans path with
  | none =>
    rw [ofPath, hstart] at h
    cases h
  | some start =>
    obtain ⟨bean, hbean, hparameter, hparts⟩ := startOfPath?_cases hstart
    obtain ⟨properties, -, hnames, rfl⟩ := (ofPath_eq_ok_iff hstart).1 h
    refine ⟨bean, hbean, properties, by rw [hparameter], fun property hmem => ?_⟩
    have hname : property.name ∈ start.2 := hnames ▸ List.mem_map_of_mem hmem
    rcases hparts with hparts | ⟨-, hparts⟩
    · exact hparts ▸ List.mem_cons_of_mem _ hname
    · exact hparts ▸ hname

/-- What a bean offers is one of its properties or its parameter. -/
theorem through_of_offered {name : String} {bean : SourceBean} {source : Source}
    (h : offered? beans name bean = some source) :
    ∃ properties, source = through bean.parameter properties ∧
      ∀ property ∈ properties, property ∈ bean.properties := by
  unfold offered? at h
  split at h
  · rename_i property hproperty
    cases h
    refine ⟨[property], ofProperty_eq_through _ _, fun other hmem => ?_⟩
    rw [List.mem_singleton.1 hmem]
    exact List.mem_of_find?_eq_some hproperty
  · split at h
    · cases h
      exact ⟨[], rfl, fun _ hmem => by cases hmem⟩
    · cases h

/-- Every source is a constant, or leads from a parameter through properties: those of a path, or
one of the parameter's own. -/
theorem through_of_candidates {explicit : Option PropertyOptions} {name : String}
    {sources : List Source} (h : candidates table beans explicit name = .ok sources) :
    ∀ source ∈ sources, (∃ text, source = ofText text) ∨
      ∃ bean ∈ beans, ∃ properties, source = through bean.parameter properties ∧
        ((∃ path, ∀ property ∈ properties, property.name ∈ Text.parts '.' path) ∨
          ∀ property ∈ properties, property ∈ bean.properties) := by
  unfold candidates at h
  split at h
  · rename_i text _
    cases h
    exact fun source hmem => Or.inl ⟨text, List.mem_singleton.1 hmem⟩
  · rename_i path _ _
    cases hpath : ofPath table beans path with
    | error message => rw [hpath] at h; cases h
    | ok found =>
      rw [hpath] at h
      cases h
      intro source hmem
      rw [List.mem_singleton.1 hmem]
      obtain ⟨bean, hbean, properties, hfound, hnames⟩ := through_of_ofPath hpath
      exact Or.inr ⟨bean, hbean, properties, hfound, Or.inl ⟨path, hnames⟩⟩
  · cases h
    intro source hmem
    obtain ⟨bean, hbean, hoffered⟩ := List.mem_filterMap.1 hmem
    obtain ⟨properties, hsource, hown⟩ := through_of_offered hoffered
    exact Or.inr ⟨bean, hbean, properties, hsource, Or.inr hown⟩

end Source

end BeanMapper
