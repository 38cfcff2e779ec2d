import BeanMapper.Proofs.Type.Substitution
import Mathlib.Data.List.Find
import Mathlib.Data.List.Forall2

/-!
# Views of generic types

A class with arguments is seen as each of its supertypes by putting its arguments in the place of
its parameters, step by step. In a table whose supertypes are uniform this commutes with
substitution: `asSupertype?_substitute` says that the view of an instance is the instance of the
view, and `views_of_instance` that all views of a generic class with arguments are those of the
class with its own parameters. If the supertypes are well-formed, a view mentions no variable that
the type does not mention (`wellFormed_asSupertype?`).
-/

namespace BeanMapper.ClassTable

/-! ## Declared supertypes -/

/-- The supertypes that a class declares, as far as their texts are types. -/
def parsedSupertypes (table : ClassTable) (decl : ClassDecl) : List Ty :=
  decl.supertypes.filterMap fun text => (table.parse text).toOption

/-- What a supertype of a class becomes for a class with these arguments. -/
def instantiate (decl : ClassDecl) (args : List Ty) : Ty → Ty :=
  if args.isEmpty && !decl.typeParams.isEmpty then Ty.erasure
  else Ty.substitute (bindingsOf decl args)

/-- What is asked of every declaration in force can be asked of one entry after the other. -/
theorem forall_find?_iff {table : ClassTable} {p : ClassDecl → Prop} :
    (∀ name decl, table.find? name = some decl → p decl) ↔
      ∀ decl ∈ table.decls, ∀ found ∈ table.find? decl.name, p found := by
  constructor
  · intro h decl _ found hfound
    exact h decl.name found hfound
  · intro h name decl hd
    have hname : decl.name = name := by simpa using List.find?_some hd
    refine h decl (List.mem_of_find?_eq_some hd) decl ?_
    rw [hname]; exact hd

/-- Every supertype that a class declares is well-formed over the parameters of that class, and is
not a parameter itself. -/
def SupertypesWellFormed (table : ClassTable) : Prop :=
  ∀ name decl, table.find? name = some decl → ∀ ty ∈ table.parsedSupertypes decl,
    table.wellFormed decl.typeParams ty = true ∧ ty.isTypeVar = false

instance (table : ClassTable) : Decidable table.SupertypesWellFormed :=
  decidable_of_iff _ forall_find?_iff.symm

/-- Whether each parameter of a class has a value, or none has one. -/
def isSupplied (table : ClassTable) (ty : Ty) : Bool :=
  ty.isRaw || (table.declOf? ty).all fun decl => decl.typeParams.length ≤ ty.args.length

/-- Every supertype that a class declares mentions the parameters of that class only, is not a
parameter itself, and has no argument or enough of them. -/
def SupertypesUniform (table : ClassTable) : Prop :=
  ∀ name decl, table.find? name = some decl → ∀ ty ∈ table.parsedSupertypes decl,
    ty.typeVars ⊆ decl.typeParams ∧ ty.isTypeVar = false ∧ table.isSupplied ty = true

instance (table : ClassTable) : Decidable table.SupertypesUniform :=
  decidable_of_iff _ forall_find?_iff.symm

variable {table : ClassTable} {vars : List String}

theorem supertypes_of_find? {name : String} {decl : ClassDecl} (h : table.find? name = some decl)
    (args : List Ty) :
    table.supertypes name args = (table.parsedSupertypes decl).map (instantiate decl args) := by
  simp only [supertypes, h, parsedSupertypes, instantiate, List.map_filterMap]

theorem supertypes_of_unknown {name : String} (h : table.find? name = none) (args : List Ty) :
    table.supertypes name args = [] := by
  simp only [supertypes, h]

/-- A search for supertypes only looks at classes, so only these have to be well-formed. -/
def ClassesWellFormed (table : ClassTable) (vars : List String) (tys : List Ty) : Prop :=
  ∀ ty ∈ tys, ty.isDeclared = true → table.wellFormed vars ty = true

/-- The second type is an instance of the first if that is a class, else it is no class either. -/
def Instance (s : Ty.Bindings) (a b : Ty) : Prop :=
  (a.isDeclared = true ∧ b = a.substitute s) ∨ (a.isDeclared = false ∧ b.isDeclared = false)

theorem isDeclared_substitute {ty : Ty} (s : Ty.Bindings) (h : ty.isTypeVar = false) :
    (ty.substitute s).isDeclared = ty.isDeclared := by
  cases ty <;> simp_all [Ty.substitute, Ty.isDeclared, Ty.isTypeVar]

theorem isDeclared_erasure (ty : Ty) : ty.erasure.isDeclared = ty.isDeclared := by
  cases ty <;> rfl

theorem isDeclared_instantiate {decl : ClassDecl} {ty : Ty} (args : List Ty)
    (h : ty.isTypeVar = false) : (instantiate decl args ty).isDeclared = ty.isDeclared := by
  unfold instantiate
  split
  · exact isDeclared_erasure ty
  · exact isDeclared_substitute _ h

theorem isSupplied_declared {name : String} {args : List Ty} :
    table.isSupplied (.declared name args) = true ↔
      args = [] ∨ ∀ decl, table.find? name = some decl →
        decl.typeParams.length ≤ args.length := by
  have hargs : table.isSupplied (.declared name args) = (args.isEmpty ||
      (table.find? name).all fun decl => decl.typeParams.length ≤ args.length) := rfl
  rw [hargs, Bool.or_eq_true, List.isEmpty_iff, Option.all_eq_true]
  simp only [decide_eq_true_eq]

theorem isSupplied_of_wellFormed {ty : Ty} (h : table.wellFormed vars ty = true) :
    table.isSupplied ty = true := by
  cases ty with
  | declared name args =>
    rw [isSupplied_declared]
    refine or_iff_not_imp_left.2 fun hne decl hd => ?_
    exact Nat.le_of_eq (length_eq_of_admits (wellFormed_declared.1 h).2.1 hd hne)
  | _ => rfl

theorem SupertypesWellFormed.uniform (hT : table.SupertypesWellFormed) :
    table.SupertypesUniform := by
  intro name decl hd ty hty
  obtain ⟨hw, hv⟩ := hT name decl hd ty hty
  exact ⟨typeVars_of_wellFormed hw, hv, isSupplied_of_wellFormed hw⟩

/-- A class that is not raw has an argument for each parameter. -/
theorem length_params {name : String} {args : List Ty} {decl : ClassDecl}
    (hd : table.find? name = some decl) (h : table.isSupplied (.declared name args) = true)
    (hraw : ¬(args.isEmpty && !decl.typeParams.isEmpty) = true) :
    decl.typeParams.length ≤ args.length := by
  by_cases hne : args = []
  · subst hne
    have : decl.typeParams = [] := by simpa using hraw
    simp [this]
  · exact (isSupplied_declared.1 h).resolve_left hne decl hd

theorem isSupplied_instantiate {decl : ClassDecl} {ty : Ty} (args : List Ty)
    (h : table.isSupplied ty = true) (hv : ty.isTypeVar = false) :
    table.isSupplied (instantiate decl args ty) = true := by
  unfold instantiate
  split
  · cases ty <;> rfl
  · cases ty with
    | declared n as =>
      rw [substitute_declared, isSupplied_declared, List.map_eq_nil_iff, List.length_map]
      exact isSupplied_declared.1 h
    | typeVar n => cases hv
    | _ => rfl

theorem wellFormed_instantiate {name : String} {args : List Ty} {decl : ClassDecl} {ty : Ty}
    (hd : table.find? name = some decl)
    (h : table.wellFormed vars (.declared name args) = true)
    (hty : table.wellFormed decl.typeParams ty = true) (hdecl : ty.isDeclared = true) :
    table.wellFormed vars (instantiate decl args ty) = true := by
  unfold instantiate
  split
  · cases ty with
    | declared n as =>
      rw [wellFormed_declared] at hty
      exact wellFormed_declared.2 ⟨hty.1, admits_zero n, by simp⟩
    | _ => cases hdecl
  · rename_i hraw
    exact wellFormed_zip hty (length_params hd (isSupplied_of_wellFormed h) hraw)
      (wellFormed_declared.1 h).2.2

theorem instantiate_substitute {name : String} {args : List Ty} {decl : ClassDecl} {ty : Ty}
    (s : Ty.Bindings) (hd : table.find? name = some decl)
    (h : table.isSupplied (.declared name args) = true) (hty : ty.typeVars ⊆ decl.typeParams)
    (hdecl : ty.isDeclared = true) :
    instantiate decl (args.map (Ty.substitute s)) ty = (instantiate decl args ty).substitute s := by
  unfold instantiate
  have he : (args.map (Ty.substitute s)).isEmpty = args.isEmpty := by cases args <;> rfl
  rw [he]
  split
  · cases ty with
    | declared n as => simp [Ty.erasure, substitute_declared]
    | _ => cases hdecl
  · rename_i hraw
    exact (substitute_zip s hty (length_params hd h hraw)).symm

theorem supertypes_wellFormed (hT : table.SupertypesWellFormed) {name : String} {args : List Ty}
    (h : table.wellFormed vars (.declared name args) = true) :
    table.ClassesWellFormed vars (table.supertypes name args) := by
  intro ty hty hdecl
  cases hd : table.find? name with
  | none => simp [supertypes_of_unknown hd] at hty
  | some decl =>
    rw [supertypes_of_find? hd] at hty
    obtain ⟨parsed, hp, rfl⟩ := List.mem_map.1 hty
    obtain ⟨hw, hv⟩ := hT name decl hd parsed hp
    rw [isDeclared_instantiate args hv] at hdecl
    exact wellFormed_instantiate hd h hw hdecl

theorem supertypes_supplied (hU : table.SupertypesUniform) (name : String) (args : List Ty) :
    ∀ ty ∈ table.supertypes name args, table.isSupplied ty = true := by
  intro ty hty
  cases hd : table.find? name with
  | none => simp [supertypes_of_unknown hd] at hty
  | some decl =>
    rw [supertypes_of_find? hd] at hty
    obtain ⟨parsed, hp, rfl⟩ := List.mem_map.1 hty
    obtain ⟨-, hv, hs⟩ := hU name decl hd parsed hp
    exact isSupplied_instantiate args hs hv

theorem supertypes_substitute (hU : table.SupertypesUniform) (s : Ty.Bindings) {name : String}
    {args : List Ty} (h : table.isSupplied (.declared name args) = true) :
    List.Forall₂ (Instance s) (table.supertypes name args)
      (table.supertypes name (args.map (Ty.substitute s))) := by
  cases hd : table.find? name with
  | none => simp [supertypes_of_unknown hd]
  | some decl =>
    rw [supertypes_of_find? hd, supertypes_of_find? hd, List.forall₂_map_left_iff,
      List.forall₂_map_right_iff, List.forall₂_same]
    intro ty hty
    obtain ⟨hvars, hv, -⟩ := hU name decl hd ty hty
    cases hdecl : ty.isDeclared with
    | true =>
      refine Or.inl ⟨by rw [isDeclared_instantiate args hv, hdecl], ?_⟩
      exact instantiate_substitute s hd h hvars hdecl
    | false =>
      exact Or.inr ⟨by rw [isDeclared_instantiate args hv, hdecl],
        by rw [isDeclared_instantiate _ hv, hdecl]⟩

/-! ## The closure -/

theorem closureFrom_skip {ty : Ty} (h : ty.isDeclared = false) (fuel : Nat) (seen : List String)
    (queue : List Ty) :
    table.closureFrom (fuel + 1) seen (ty :: queue) = table.closureFrom fuel seen queue := by
  cases ty <;> first | rfl | cases h

/-- What holds of the classes in the queue, and of the supertypes of each class that it holds of as
far as they are classes, holds of every view. -/
theorem closureFrom_forall {p : Ty → Prop} {fuel : Nat} {seen : List String} {queue : List Ty}
    (hstep : ∀ name args, p (.declared name args) → ∀ ty ∈ table.supertypes name args,
      ty.isDeclared = true → p ty)
    (hq : ∀ ty ∈ queue, ty.isDeclared = true → p ty) :
    ∀ view ∈ table.closureFrom fuel seen queue, p view := by
  fun_induction closureFrom table fuel seen queue with
  | case1 => simp
  | case2 => simp
  | case3 _ _ _ _ _ _ ih => exact ih fun ty hty => hq ty (List.mem_cons_of_mem _ hty)
  | case4 fuel seen name args queue _ ih =>
    have hhere : p (.declared name args) := hq _ List.mem_cons_self rfl
    refine List.forall_mem_cons.2 ⟨hhere, ih fun ty hty hclass => ?_⟩
    rcases List.mem_append.1 hty with hty | hty
    · exact hq ty (List.mem_cons_of_mem _ hty) hclass
    · exact hstep name args hhere ty hty hclass
  | case5 _ _ _ _ _ ih => exact ih fun ty hty => hq ty (List.mem_cons_of_mem _ hty)

/-- The searches for the supertypes of a queue and of its instances go the same way. -/
theorem closureFrom_substitute (hU : table.SupertypesUniform) (s : Ty.Bindings) (fuel : Nat)
    (seen : List String) (queue queue' : List Ty) (hq : ∀ ty ∈ queue, table.isSupplied ty = true)
    (h : List.Forall₂ (Instance s) queue queue') :
    table.closureFrom fuel seen queue' =
      (table.closureFrom fuel seen queue).map (Ty.substitute s) := by
  induction fuel generalizing seen queue queue' with
  | zero => simp [closureFrom]
  | succ fuel ih =>
    cases h with
    | nil => simp [closureFrom]
    | @cons ty ty' queue queue' hty hqs =>
      have hrest : ∀ t ∈ queue, table.isSupplied t = true := fun t ht => hq t (by simp [ht])
      rcases hty with ⟨hdecl, rfl⟩ | ⟨hdecl, hdecl'⟩
      · have hs := hq ty (by simp)
        cases ty with
        | declared name args =>
          rw [substitute_declared, closureFrom, closureFrom]
          split
          · exact ih seen queue queue' hrest hqs
          · rw [List.map_cons, substitute_declared]
            congr 1
            refine ih _ _ _ (fun u hu => ?_) ?_
            · rcases List.mem_append.1 hu with hu | hu
              · exact hrest u hu
              · exact supertypes_supplied hU name args u hu
            · exact List.rel_append hqs (supertypes_substitute hU s hs)
        | _ => cases hdecl
      · rw [closureFrom_skip hdecl, closureFrom_skip hdecl']
        exact ih seen queue queue' hrest hqs

theorem isDeclared_of_mem_closureFrom {fuel : Nat} {seen : List String} {queue : List Ty}
    {view : Ty} (h : view ∈ table.closureFrom fuel seen queue) : view.isDeclared = true := by
  fun_induction closureFrom table fuel seen queue with
  | case1 => cases h
  | case2 => cases h
  | case3 _ _ _ _ _ _ ih => exact ih h
  | case4 _ _ _ _ _ _ ih =>
    rcases List.mem_cons.1 h with rfl | h
    · rfl
    · exact ih h
  | case5 _ _ _ _ _ ih => exact ih h

theorem closure_wellFormed (hT : table.SupertypesWellFormed) {ty view : Ty}
    (h : table.wellFormed vars ty = true) (hv : view ∈ table.closure ty) :
    view.isDeclared = true ∧ table.wellFormed vars view = true :=
  ⟨isDeclared_of_mem_closureFrom hv,
    closureFrom_forall (fun _ _ hview => supertypes_wellFormed hT hview)
      (List.forall_mem_singleton.2 fun _ => h) view hv⟩

theorem closure_substitute (hU : table.SupertypesUniform) (s : Ty.Bindings) {ty : Ty}
    (h : table.isSupplied ty = true) (hv : ty.isTypeVar = false) :
    table.closure (ty.substitute s) = (table.closure ty).map (Ty.substitute s) := by
  refine closureFrom_substitute hU s _ _ _ _ (by simpa using h) ?_
  refine List.Forall₂.cons ?_ List.Forall₂.nil
  cases hd : ty.isDeclared with
  | true => exact Or.inl ⟨hd, rfl⟩
  | false => exact Or.inr ⟨hd, by rw [isDeclared_substitute s hv, hd]⟩

/-! ## Views -/

theorem qualifiedName_substitute {ty : Ty} (s : Ty.Bindings) (h : ty.isDeclared = true) :
    (ty.substitute s).qualifiedName = ty.qualifiedName := by
  cases ty with
  | declared name args => rw [substitute_declared]; rfl
  | _ => cases h

theorem find?_substitute (s : Ty.Bindings) (name : String) (tys : List Ty)
    (h : ∀ ty ∈ tys, ty.isDeclared = true) :
    (tys.map (Ty.substitute s)).find? (fun view => view.qualifiedName = name) =
      (tys.find? fun view => view.qualifiedName = name).map (Ty.substitute s) := by
  rw [List.find?_map]
  congr 1
  refine List.find?_congr fun ty hty => ?_
  simp [qualifiedName_substitute s (h ty hty)]

theorem object_wellFormed (vars : List String) : table.wellFormed vars .object = true := by
  exact wellFormed_declared.2 ⟨by decide, admits_zero _, by simp⟩

/-- The view of an instance is the instance of the view. -/
theorem asSupertype?_substitute (hU : table.SupertypesUniform) (s : Ty.Bindings) {ty : Ty}
    (name : String) (h : table.isSupplied ty = true) (hv : ty.isTypeVar = false) :
    table.asSupertype? (ty.substitute s) name =
      (table.asSupertype? ty name).map (Ty.substitute s) := by
  have hd : (ty.substitute s).isDeclared = ty.isDeclared := isDeclared_substitute s hv
  have ha : (ty.substitute s).isArray = ty.isArray := by
    cases ty <;> simp_all [Ty.substitute, Ty.isArray, Ty.isTypeVar]
  unfold asSupertype?
  rw [hd, ha]
  split
  · rfl
  · rw [closure_substitute hU s h hv]
    exact find?_substitute s name _ fun view hview => isDeclared_of_mem_closureFrom hview

/-- A view is a class of the name that is asked for, and mentions no new variables. -/
theorem wellFormed_asSupertype? (hT : table.SupertypesWellFormed) {ty view : Ty} {name : String}
    (h : table.wellFormed vars ty = true) (hview : table.asSupertype? ty name = some view) :
    view = .declared name view.args ∧ table.wellFormed vars view = true := by
  unfold asSupertype? at hview
  split at hview
  · rename_i hname
    cases hview
    exact ⟨by rw [hname.1]; rfl, object_wellFormed vars⟩
  · obtain ⟨hdecl, hw⟩ := closure_wellFormed hT h (List.mem_of_find?_eq_some hview)
    have hname : view.qualifiedName = name := by simpa using List.find?_some hview
    refine ⟨?_, hw⟩
    cases view with
    | declared n as => rw [← hname]; rfl
    | _ => cases hdecl

/-- Only classes and arrays have views. -/
theorem shape_of_asSupertype? {ty view : Ty} {name : String}
    (hview : table.asSupertype? ty name = some view) :
    ty.isDeclared = true ∨ (ty.isArray = true ∧ name = Platform.object) := by
  cases hdecl : ty.isDeclared with
  | true => exact Or.inl rfl
  | false =>
    unfold asSupertype? at hview
    split at hview
    · rename_i h; simp_all
    · have : table.closure ty = [] := by
        rw [closure, searchFuel, closureFrom_skip hdecl]; rfl
      simp [this] at hview

/-! ## Instances of a generic class -/

/-- **All views of a generic class with arguments are its own views.** In a uniform table, the
supertypes of a class with arguments are those of the class with its parameters in their places,
with the arguments put in: all of them in the same order, and each that is asked for by name. -/
theorem views_of_instance (hU : table.SupertypesUniform) {name : String} {decl : ClassDecl}
    (hd : table.find? name = some decl) (hdistinct : decl.typeParams.Nodup) (args : List Ty)
    (hl : decl.typeParams.length = args.length) :
    let generic := Ty.declared name (decl.typeParams.map .typeVar)
    let values := bindingsOf decl args
    table.closure (.declared name args) = (table.closure generic).map (Ty.substitute values) ∧
      ∀ goal, table.asSupertype? (.declared name args) goal =
        (table.asSupertype? generic goal).map (Ty.substitute values) := by
  intro generic values
  have hargs : (decl.typeParams.map Ty.typeVar).map (Ty.substitute values) = args :=
    map_substitute_params hdistinct hl
  have hinstance : Ty.declared name args = generic.substitute values := by
    rw [substitute_declared, hargs]
  have hsupplied : table.isSupplied generic = true :=
    isSupplied_declared.2 (Or.inr fun other hother => by
      rw [hd] at hother
      cases hother
      rw [List.length_map])
  rw [hinstance]
  exact ⟨closure_substitute hU values hsupplied rfl,
    fun goal => asSupertype?_substitute hU values goal hsupplied rfl⟩

namespace Depot

/-- What a crate holds and what it is packed in. -/
def crate : ClassDecl :=
  (ClassDecl.plain "depot.Crate").generic ["A", "B"] ["depot.Pair<B, A[]>"]

/-- A pair and its swap have each other as a supertype, and a pair is tagged with anything. -/
def classes : ClassTable := .declareAll {} [
  .plain Platform.string,
  (ClassDecl.interface "depot.Tagged").generic ["T"] ["depot.Box<T>"],
  (ClassDecl.interface "depot.Pair").generic ["A", "B"] ["depot.Swap<B, A>", "depot.Tagged"],
  (ClassDecl.interface "depot.Swap").generic ["X", "Y"] ["depot.Pair<Y, X>"],
  crate]

/-- The arguments of a crate may be variables of the same names, and still each takes its place. -/
theorem views_of_instance_crate :
    classes.SupertypesUniform ∧ classes.find? "depot.Crate" = some crate ∧
      crate.typeParams.Nodup ∧
      classes.closure (.declared "depot.Crate" [.typeVar "B", .string]) =
        (classes.closure (.declared "depot.Crate" [.typeVar "A", .typeVar "B"])).map
          (Ty.substitute [("A", .typeVar "B"), ("B", .string)]) ∧
      classes.asSupertype? (.declared "depot.Crate" [.typeVar "B", .string]) "depot.Swap" =
        some (.declared "depot.Swap" [.array (.typeVar "B"), .string]) := by
  have hU : classes.SupertypesUniform := by decide +kernel
  have hd : classes.find? "depot.Crate" = some crate := by decide +kernel
  have hdistinct : crate.typeParams.Nodup := by decide
  obtain ⟨hclosure, hviews⟩ :=
    views_of_instance hU hd hdistinct [.typeVar "B", .string] rfl
  refine ⟨hU, hd, hdistinct, hclosure, (hviews "depot.Swap").trans ?_⟩
  decide +kernel

end Depot

/-! ## Assignability -/

theorem isAssignable_refl (table : ClassTable) (ty : Ty) : table.isAssignable ty ty = true := by
  cases ty <;> simp [isAssignable]

theorem argsFit_self (args : List Ty) : argsFit args args = true := by
  simp only [argsFit, decide_true, Bool.true_and]
  induction args with
  | nil => rfl
  | cons arg args ih => simp [ih]

/-- A type fits where a class is asked for if its view as that class is raw, or if the class is
asked for without arguments or with those of the view. -/
theorem isAssignable_of_view {ty view : Ty} {goal : String} {expected : List Ty}
    (hview : table.asSupertype? ty goal = some view)
    (h : expected = [] ∨ view.args = [] ∨ view.args = expected) :
    table.isAssignable ty (.declared goal expected) = true := by
  cases ty with
  | declared name args =>
    rw [isAssignable]
    split
    · rfl
    · split
      · rfl
      · rw [hview]
        rcases h with rfl | h | rfl
        · rfl
        · simp [Ty.isRaw, h]
        · simp [argsFit_self]
  | array component =>
    rcases shape_of_asSupertype? hview with h' | ⟨-, h'⟩
    · cases h'
    · simp [isAssignable, h']
  | _ => rcases shape_of_asSupertype? hview with h' | ⟨h', -⟩ <;> cases h'

end BeanMapper.ClassTable
