import BeanMapper.Selection.Matching

/-!
# Substitution in well-formed types

A type is well-formed over a list of variables if it mentions no other variable, names its classes
by class names, and gives every declared class no argument or one for each parameter. What a
substitution does to such a type depends on the values of these variables alone: a type without
variables stays as it is (`substitute_closed`), and arguments put in the place of parameters can be
substituted in before or after (`substitute_zip`).
-/

namespace BeanMapper

/-! ## Bindings -/

namespace Ty.Bindings

theorem lookup_entry (x name : String) (value : Ty) (rest : Ty.Bindings) :
    List.lookup x ((name, value) :: rest) = if x = name then some value else rest.lookup x := by
  rw [List.lookup_cons]
  by_cases h : x = name
  · simp [h]
  · simp [beq_eq_false_iff_ne.2 h, h]

theorem lookup_replaced (entries : Ty.Bindings) (x y : String) (value : Ty) :
    (entries.map fun e => if e.1 = x then (x, value) else e).lookup y =
      if y = x then (entries.lookup x).map fun _ => value else entries.lookup y := by
  induction entries with
  | nil => simp
  | cons entry rest ih =>
    obtain ⟨name, old⟩ := entry
    rw [List.map_cons]
    by_cases hn : name = x
    · subst hn
      simp only [if_true, lookup_entry, ih]
      split <;> simp
    · have hn' : x ≠ name := fun e => hn e.symm
      simp only [hn, if_false, lookup_entry, ih, hn']
      split
      · rename_i hy; simp [hy, hn]
      · rfl

theorem value?_insert (b : Ty.Bindings) (x y : String) (value : Ty) :
    (b.insert x value).value? y = if y = x then some value else b.value? y := by
  unfold insert value?
  split
  · rename_i h
    have hx : (b.reverse.lookup x).isSome := by
      rw [List.lookup_isSome_iff] at h ⊢
      simpa using h
    rw [← List.map_reverse, lookup_replaced]
    obtain ⟨v, hv⟩ := Option.isSome_iff_exists.1 hx
    simp [hv]
  · rw [List.reverse_append]
    exact lookup_entry y x value b.reverse

theorem value?_cons (b : Ty.Bindings) (x y : String) (value : Ty) :
    Ty.Bindings.value? ((x, value) :: b) y =
      (b.value? y).or (if y = x then some value else none) := by
  rw [value?, List.reverse_cons, List.lookup_append, lookup_entry, List.lookup_nil, value?]

theorem value?_map (b : Ty.Bindings) (f : Ty → Ty) (x : String) :
    Ty.Bindings.value? (b.map fun e => (e.1, f e.2)) x = (b.value? x).map f := by
  unfold value?
  rw [← List.map_reverse]
  induction b.reverse with
  | nil => rfl
  | cons entry rest ih =>
    rw [List.map_cons, lookup_entry, ih, lookup_entry]
    split <;> rfl

theorem mem_of_value? {b : Ty.Bindings} {x : String} {v : Ty} (h : b.value? x = some v) :
    (x, v) ∈ b := by
  obtain ⟨l₁, l₂, e, -⟩ := List.lookup_eq_some_iff.1 h
  rw [← List.mem_reverse, e]
  simp

theorem value?_of_mem {b : Ty.Bindings} {x : String} (h : x ∈ b.map Prod.fst) :
    ∃ v, b.value? x = some v := by
  apply Option.isSome_iff_exists.1
  obtain ⟨e, he, rfl⟩ := List.mem_map.1 h
  exact List.lookup_isSome_iff.2 ⟨e, by simpa using he, by simp⟩

/-- The second bindings keep every value of the first. -/
def Extends (b b' : Ty.Bindings) : Prop := ∀ x v, b.value? x = some v → b'.value? x = some v

theorem Extends.refl (b : Ty.Bindings) : b.Extends b := fun _ _ h => h

theorem Extends.trans {a b c : Ty.Bindings} (h : a.Extends b) (h' : b.Extends c) : a.Extends c :=
  fun x v hv => h' x v (h x v hv)

theorem extends_insert {b : Ty.Bindings} {x : String} (v : Ty) (h : b.value? x = none) :
    b.Extends (b.insert x v) := by
  intro y w hw
  rw [value?_insert]
  split
  · rename_i e; rw [e, h] at hw; cases hw
  · exact hw

end Ty.Bindings

/-! ## Well-formed types -/

theorem Matching.mentionsAny_eq_false_iff {vars : List String} {tys : List Ty} :
    mentionsAny vars tys = false ↔ ∀ ty ∈ tys, mentions vars ty = false := by
  induction tys with
  | nil => simp [mentionsAny]
  | cons ty rest ih => simp [mentionsAny, ih]

/-- Induction on types, with the hypothesis for each argument of a class. -/
@[elab_as_elim]
theorem Ty.byParts {motive : Ty → Prop} (void : motive .void)
    (primitive : ∀ p, motive (.primitive p))
    (declared : ∀ name args, (∀ arg ∈ args, motive arg) → motive (.declared name args))
    (array : ∀ component, motive component → motive (.array component))
    (typeVar : ∀ name, motive (.typeVar name)) (ty : Ty) : motive ty :=
  ty.rec void primitive (fun name args h => declared name args h)
    (fun component h => array component h) typeVar (by simp) (fun _ _ h hs => by simpa using ⟨h, hs⟩)

namespace Ty

mutual

/-- The variables that a type mentions. -/
def typeVars : Ty → List String
  | typeVar name => [name]
  | declared _ args => typeVarsAll args
  | array component => component.typeVars
  | _ => []

def typeVarsAll : List Ty → List String
  | [] => []
  | ty :: rest => ty.typeVars ++ typeVarsAll rest

end

theorem typeVarsAll_eq_flatMap (tys : List Ty) : typeVarsAll tys = tys.flatMap typeVars := by
  induction tys with
  | nil => rfl
  | cons ty rest ih => rw [typeVarsAll, ih, List.flatMap_cons]

theorem mem_typeVars_declared {name x : String} {args : List Ty} :
    x ∈ (declared name args).typeVars ↔ ∃ arg ∈ args, x ∈ arg.typeVars := by
  rw [typeVars, typeVarsAll_eq_flatMap, List.mem_flatMap]

end Ty

namespace ClassTable

/-- Whether a class can bear the name: a dotted identifier, as the reader takes it, and not one of
the words that name a type without being a class. -/
def isClassName (name : String) : Bool :=
  match name.toList with
  | [] => false
  | c :: rest =>
    startsName c && rest.all continuesName && (Primitive.ofName? name).isNone && name != "void"

/-- Whether a class takes so many arguments: none, or one for each parameter that it declares. -/
def admits (table : ClassTable) (name : String) (count : Nat) : Bool :=
  count = 0 || (table.find? name).all fun decl => decl.typeParams.length = count

mutual

/-- Whether a type mentions no other variables than these, and its classes are named by class names
and have as many arguments as they take. -/
def wellFormed (table : ClassTable) (vars : List String) : Ty → Bool
  | .void => true
  | .primitive _ => true
  | .declared name args =>
    isClassName name && table.admits name args.length && wellFormedAll table vars args
  | .array component => wellFormed table vars component
  | .typeVar name => name ∈ vars

def wellFormedAll (table : ClassTable) (vars : List String) : List Ty → Bool
  | [] => true
  | ty :: rest => wellFormed table vars ty && wellFormedAll table vars rest

end

variable {table : ClassTable} {vars : List String}

theorem wellFormedAll_iff {tys : List Ty} :
    table.wellFormedAll vars tys = true ↔ ∀ ty ∈ tys, table.wellFormed vars ty = true := by
  induction tys with
  | nil => simp [wellFormedAll]
  | cons ty rest ih => simp [wellFormedAll, ih]

theorem wellFormed_declared {name : String} {args : List Ty} :
    table.wellFormed vars (.declared name args) = true ↔
      isClassName name = true ∧ table.admits name args.length = true ∧
        ∀ arg ∈ args, table.wellFormed vars arg = true := by
  simp [wellFormed, wellFormedAll_iff, and_assoc]

theorem wellFormed_args {ty : Ty} (h : table.wellFormed vars ty = true) :
    ∀ arg ∈ ty.args, table.wellFormed vars arg = true := by
  cases ty with
  | declared name args => exact (wellFormed_declared.1 h).2.2
  | _ => exact fun arg hm => absurd hm List.not_mem_nil

theorem admits_zero (name : String) : table.admits name 0 = true := by simp [admits]

/-- A class with arguments has one for each of its parameters. -/
theorem length_eq_of_admits {name : String} {args : List Ty} {decl : ClassDecl}
    (h : table.admits name args.length = true) (hd : table.find? name = some decl)
    (hne : args ≠ []) : decl.typeParams.length = args.length := by
  have : args.length ≠ 0 := fun e => hne (List.length_eq_zero_iff.1 e)
  simpa [admits, this, hd] using h

theorem typeVars_of_wellFormed {ty : Ty} (h : table.wellFormed vars ty = true) :
    ty.typeVars ⊆ vars := by
  induction ty using Ty.byParts with
  | void => exact List.nil_subset _
  | primitive p => exact List.nil_subset _
  | declared name args ih =>
    intro x hx
    obtain ⟨arg, ha, hx⟩ := Ty.mem_typeVars_declared.1 hx
    exact ih arg ha ((wellFormed_declared.1 h).2.2 arg ha) hx
  | array component ih => exact ih h
  | typeVar name => simpa [Ty.typeVars, wellFormed] using h

theorem wellFormed_mono {vars' : List String} {ty : Ty} (hs : vars ⊆ vars')
    (h : table.wellFormed vars ty = true) : table.wellFormed vars' ty = true := by
  induction ty using Ty.byParts with
  | void => rfl
  | primitive p => rfl
  | declared name args ih =>
    rw [wellFormed_declared] at h ⊢
    exact ⟨h.1, h.2.1, fun arg ha => ih arg ha (h.2.2 arg ha)⟩
  | array component ih => exact ih h
  | typeVar name =>
    simp only [wellFormed, decide_eq_true_eq] at h ⊢
    exact hs h

theorem wellFormed_of_not_mentions {ty : Ty} (h : table.wellFormed vars ty = true)
    (hm : Matching.mentions vars ty = false) : table.wellFormed [] ty = true := by
  induction ty using Ty.byParts with
  | void => rfl
  | primitive p => rfl
  | declared name args ih =>
    rw [wellFormed_declared] at h ⊢
    refine ⟨h.1, h.2.1, fun arg ha => ih arg ha (h.2.2 arg ha) ?_⟩
    exact Matching.mentionsAny_eq_false_iff.1 hm arg ha
  | array component ih => exact ih h hm
  | typeVar name =>
    simp only [wellFormed, Matching.mentions] at h hm
    rw [h] at hm; cases hm

theorem not_mentions_of_closed {ty : Ty} (h : table.wellFormed [] ty = true) :
    Matching.mentions vars ty = false := by
  induction ty using Ty.byParts with
  | void => rfl
  | primitive p => rfl
  | declared name args ih =>
    rw [Matching.mentions, Matching.mentionsAny_eq_false_iff]
    exact fun arg hm => ih arg hm ((wellFormed_declared.1 h).2.2 arg hm)
  | array component ih => exact ih h
  | typeVar name => simp [wellFormed] at h

/-! ## Substitution -/

theorem substitute_declared (b : Ty.Bindings) (name : String) (args : List Ty) :
    (Ty.declared name args).substitute b = .declared name (args.map (Ty.substitute b)) := by
  rw [Ty.substitute, Ty.substituteAll_eq_map]

/-- Two substitutions in a row are one that does the same to every variable. -/
theorem substitute_substitute {ty : Ty} {b b' c : Ty.Bindings}
    (hv : ∀ x ∈ ty.typeVars,
      ((Ty.typeVar x).substitute b).substitute b' = (Ty.typeVar x).substitute c) :
    (ty.substitute b).substitute b' = ty.substitute c := by
  induction ty using Ty.byParts with
  | void => rfl
  | primitive p => rfl
  | declared name args ih =>
    simp only [substitute_declared, List.map_map]
    congr 1
    refine List.map_congr_left fun arg ha => ih arg ha fun x hx => hv x ?_
    exact Ty.mem_typeVars_declared.2 ⟨arg, ha, hx⟩
  | array component ih => exact congrArg Ty.array (ih hv)
  | typeVar name => exact hv name (List.mem_singleton_self name)

theorem substitute_nil (ty : Ty) : ty.substitute [] = ty := by
  induction ty using Ty.byParts with
  | void => rfl
  | primitive p => rfl
  | declared name args ih =>
    rw [substitute_declared]
    exact congrArg _ ((List.map_congr_left ih).trans (List.map_id args))
  | array component ih => exact congrArg Ty.array ih
  | typeVar name => rfl

theorem substitute_of_no_typeVars {ty : Ty} (b : Ty.Bindings) (h : ty.typeVars = []) :
    ty.substitute b = ty := by
  have hs : (ty.substitute b).substitute [] = ty.substitute [] :=
    substitute_substitute (by simp [h])
  rwa [substitute_nil, substitute_nil] at hs

theorem substitute_closed {ty : Ty} (b : Ty.Bindings) (h : table.wellFormed [] ty = true) :
    ty.substitute b = ty :=
  substitute_of_no_typeVars b (List.subset_nil.1 (typeVars_of_wellFormed h))

theorem wellFormed_substitute {vars' : List String} {ty : Ty} {b : Ty.Bindings}
    (h : table.wellFormed vars ty = true)
    (hv : ∀ x ∈ vars, table.wellFormed vars' ((Ty.typeVar x).substitute b) = true) :
    table.wellFormed vars' (ty.substitute b) = true := by
  induction ty using Ty.byParts with
  | void => rfl
  | primitive p => rfl
  | declared name args ih =>
    rw [wellFormed_declared] at h
    rw [substitute_declared, wellFormed_declared]
    refine ⟨h.1, by simpa using h.2.1, fun arg ha => ?_⟩
    obtain ⟨a, hm, rfl⟩ := List.mem_map.1 ha
    exact ih a hm (h.2.2 a hm)
  | array component ih => exact ih h
  | typeVar name => exact hv name (by simpa [wellFormed] using h)

/-- The value of a parameter is one of the arguments, and every parameter has one if there are
enough arguments. -/
theorem substitute_param {params : List String} {args : List Ty} {x : String}
    (hl : params.length ≤ args.length) (hx : x ∈ params) :
    ∃ arg ∈ args, Ty.Bindings.value? (params.zip args) x = some arg := by
  have hk : x ∈ (params.zip args).map Prod.fst := by rwa [List.map_fst_zip hl]
  obtain ⟨v, hv⟩ := Ty.Bindings.value?_of_mem hk
  exact ⟨v, (List.of_mem_zip (Ty.Bindings.mem_of_value? hv)).2, hv⟩

theorem value?_zip_none {params : List String} {args : List Ty} {name : String}
    (h : name ∉ params) : Ty.Bindings.value? (params.zip args) name = none := by
  cases hv : Ty.Bindings.value? (params.zip args) name with
  | none => rfl
  | some value =>
    exact absurd (List.of_mem_zip (Ty.Bindings.mem_of_value? hv)).1 h

/-- Distinct parameters become the arguments that take their places. -/
theorem map_substitute_params {params : List String} {args : List Ty} (hdistinct : params.Nodup)
    (hl : params.length = args.length) :
    (params.map Ty.typeVar).map (Ty.substitute (params.zip args)) = args := by
  induction params generalizing args with
  | nil => exact (List.length_eq_zero_iff.1 hl.symm).symm
  | cons param params ih =>
    cases args with
    | nil => cases hl
    | cons arg args =>
      obtain ⟨hnew, hrest⟩ := List.nodup_cons.1 hdistinct
      have hl' : params.length = args.length := Nat.succ.inj hl
      have hfirst : (Ty.typeVar param).substitute ((param, arg) :: params.zip args) = arg := by
        rw [Ty.substitute, Ty.Bindings.value?_cons, value?_zip_none hnew]
        simp
      -- the first entry is for none of the other parameters
      have hothers : ∀ x ∈ params, (Ty.typeVar x).substitute ((param, arg) :: params.zip args) =
          (Ty.typeVar x).substitute (params.zip args) := by
        intro x hx
        obtain ⟨value, -, hvalue⟩ := substitute_param (Nat.le_of_eq hl') hx
        rw [Ty.substitute, Ty.Bindings.value?_cons, hvalue, Ty.substitute, hvalue]
        rfl
      have hargs := ih hrest hl'
      rw [List.map_map] at hargs
      rw [List.zip_cons_cons, List.map_cons, List.map_cons, hfirst, List.map_map]
      exact congrArg _ ((List.map_congr_left hothers).trans hargs)

/-- Arguments that take the place of parameters can be substituted in before or after. -/
theorem substitute_zip {ty : Ty} {params : List String} {args : List Ty} (s : Ty.Bindings)
    (h : ty.typeVars ⊆ params) (hl : params.length ≤ args.length) :
    (ty.substitute (params.zip args)).substitute s =
      ty.substitute (params.zip (args.map (Ty.substitute s))) := by
  refine substitute_substitute fun x hx => ?_
  obtain ⟨arg, -, ha⟩ := substitute_param hl (h hx)
  have hz : params.zip (args.map (Ty.substitute s)) =
      (params.zip args).map fun e => (e.1, e.2.substitute s) := by
    rw [List.zip_map_right]; rfl
  rw [hz]
  simp only [Ty.substitute, Ty.Bindings.value?_map, ha, Option.map_some, Option.getD_some]

theorem wellFormed_zip {ty : Ty} {params : List String} {args : List Ty}
    (h : table.wellFormed params ty = true) (hl : params.length ≤ args.length)
    (ha : ∀ arg ∈ args, table.wellFormed vars arg = true) :
    table.wellFormed vars (ty.substitute (params.zip args)) = true := by
  refine wellFormed_substitute h fun x hx => ?_
  obtain ⟨arg, hm, hv⟩ := substitute_param hl hx
  simpa [Ty.substitute, hv] using ha arg hm

end ClassTable

end BeanMapper
