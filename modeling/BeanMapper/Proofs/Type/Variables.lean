import BeanMapper.Proofs.Type.Inheritance
import BeanMapper.Proofs.Type.Views

/-!
# Where type variables are left

The types in a class declaration mention the parameters of that class. Seen from a type without
variables, its supertypes have none, because a class with arguments puts them in the place of all
parameters and one without has erased supertypes; and so the elements and entries of a type have
none. With properties it is different: of a class without arguments nothing is put into the types of
its properties. `leaves_variable_iff` says that these are all the variables that are left, and
`Cellar.not_always_closed` is a class that leaves one.
-/

namespace BeanMapper

open ClassTable

/-! ## Variables of a substituted type -/

theorem Ty.typeVars_substitute (b : Ty.Bindings) (ty : Ty) :
    (ty.substitute b).typeVars =
      ty.typeVars.flatMap fun x => ((Ty.typeVar x).substitute b).typeVars := by
  induction ty using Ty.byParts with
  | void => rfl
  | primitive p => rfl
  | declared name args ih =>
    rw [substitute_declared, typeVars, typeVars, typeVarsAll_eq_flatMap, typeVarsAll_eq_flatMap,
      List.flatMap_map, List.flatMap_assoc]
    exact List.flatMap_congr ih
  | array component ih => exact ih
  | typeVar name => rw [typeVars, List.flatMap_singleton]

namespace ClassTable

variable {table : ClassTable}

/-- Arguments without variables leave none of the parameters. -/
theorem closed_zip {ty : Ty} {params : List String} {args : List Ty} (hvars : ty.typeVars ⊆ params)
    (hl : params.length ≤ args.length) (hargs : ∀ arg ∈ args, arg.typeVars = []) :
    (ty.substitute (params.zip args)).typeVars = [] := by
  rw [Ty.typeVars_substitute, List.flatMap_eq_nil_iff]
  intro x hx
  obtain ⟨arg, hmem, hvalue⟩ := substitute_param hl (hvars hx)
  rw [Ty.substitute, hvalue]
  exact hargs arg hmem

/-! ## Types with as many arguments as their classes take -/

mutual

/-- Whether every class in a type has as many arguments as it takes. -/
def isApplied (table : ClassTable) : Ty → Bool
  | .declared name args => table.admits name args.length && isAppliedAll table args
  | .array component => isApplied table component
  | _ => true

def isAppliedAll (table : ClassTable) : List Ty → Bool
  | [] => true
  | ty :: rest => isApplied table ty && isAppliedAll table rest

end

theorem isAppliedAll_iff {tys : List Ty} :
    table.isAppliedAll tys = true ↔ ∀ ty ∈ tys, table.isApplied ty = true := by
  induction tys with
  | nil => simp [isAppliedAll]
  | cons ty rest ih => simp [isAppliedAll, ih]

theorem isApplied_declared {name : String} {args : List Ty} :
    table.isApplied (.declared name args) = true ↔
      table.admits name args.length = true ∧ ∀ arg ∈ args, table.isApplied arg = true := by
  simp [isApplied, isAppliedAll_iff]

theorem isApplied_substitute {ty : Ty} {b : Ty.Bindings} (h : table.isApplied ty = true)
    (hb : ∀ x value, b.value? x = some value → table.isApplied value = true) :
    table.isApplied (ty.substitute b) = true := by
  induction ty using Ty.byParts with
  | void => rfl
  | primitive p => rfl
  | declared name args ih =>
    rw [isApplied_declared] at h
    rw [substitute_declared, isApplied_declared]
    refine ⟨by simpa using h.1, fun arg ha => ?_⟩
    obtain ⟨a, hm, rfl⟩ := List.mem_map.1 ha
    exact ih a hm (h.2 a hm)
  | array component ih => exact ih h
  | typeVar name =>
    rw [Ty.substitute]
    cases hvalue : b.value? name with
    | none => rfl
    | some value => exact hb name value hvalue

/-- A type without variables whose classes have as many arguments as they take. -/
structure Concrete (table : ClassTable) (ty : Ty) : Prop where
  closed : ty.typeVars = []
  applied : table.isApplied ty = true

theorem Concrete.arg {name : String} {args : List Ty} {arg : Ty}
    (h : table.Concrete (.declared name args)) (harg : arg ∈ args) : table.Concrete arg where
  closed := by
    have hclosed := h.closed
    rw [Ty.typeVars, Ty.typeVarsAll_eq_flatMap, List.flatMap_eq_nil_iff] at hclosed
    exact hclosed arg harg
  applied := (isApplied_declared.1 h.applied).2 arg harg

theorem concrete_named (name : String) : table.Concrete (.named name) :=
  ⟨rfl, isApplied_declared.2 ⟨admits_zero name, by simp⟩⟩

/-! ## What classes are declared with -/

/-- Every type that a class is declared with mentions the parameters of that class only, and all
classes in it have as many arguments as they take. -/
def Scoped (table : ClassTable) : Prop :=
  ∀ name decl, table.find? name = some decl →
    (∀ ty ∈ table.parsedSupertypes decl,
      ty.typeVars ⊆ decl.typeParams ∧ table.isApplied ty = true) ∧
    ∀ property ∈ decl.properties, ∀ ty ∈ (table.parse property.typeText).toOption,
      ty.typeVars ⊆ decl.typeParams ∧ table.isApplied ty = true

instance (table : ClassTable) : Decidable table.Scoped :=
  decidable_of_iff _ forall_find?_iff.symm

/-- A concrete class without arguments is as it is declared, and one with arguments has one for each
parameter. -/
theorem Concrete.isSupplied {name : String} {args : List Ty}
    (h : table.Concrete (.declared name args)) : table.isSupplied (.declared name args) = true :=
  isSupplied_declared.2 (or_iff_not_imp_left.2 fun hne _ hd =>
    Nat.le_of_eq (length_eq_of_admits (isApplied_declared.1 h.applied).1 hd hne))

/-- The supertypes of a concrete class are concrete, as far as they are classes. -/
theorem Concrete.supertypes (hscoped : table.Scoped) {name : String} {args : List Ty}
    (h : table.Concrete (.declared name args)) {ty : Ty} (hty : ty ∈ table.supertypes name args)
    (hclass : ty.isDeclared = true) : table.Concrete ty := by
  cases hd : table.find? name with
  | none => simp [supertypes_of_unknown hd] at hty
  | some decl =>
    rw [supertypes_of_find? hd] at hty
    obtain ⟨parsed, hparsed, rfl⟩ := List.mem_map.1 hty
    obtain ⟨hvars, happlied⟩ := (hscoped name decl hd).1 parsed hparsed
    unfold instantiate at hclass ⊢
    split
    · rename_i hraw
      rw [if_pos hraw] at hclass
      cases parsed with
      | declared other _ => exact concrete_named other
      | _ => cases hclass
    · rename_i hraw
      have hl := length_params hd h.isSupplied hraw
      exact ⟨closed_zip hvars hl fun arg harg => (h.arg harg).closed,
        isApplied_substitute happlied fun x value hvalue =>
          (h.arg (List.of_mem_zip (Ty.Bindings.mem_of_value? hvalue)).2).applied⟩

theorem Concrete.closure (hscoped : table.Scoped) {ty : Ty} (h : table.Concrete ty) :
    ∀ view ∈ table.closure ty, table.Concrete view :=
  closureFrom_forall (fun _ _ hview _ => hview.supertypes hscoped)
    (List.forall_mem_singleton.2 fun _ => h)

theorem Concrete.asSupertype? (hscoped : table.Scoped) {ty view : Ty} {name : String}
    (h : table.Concrete ty) (hview : table.asSupertype? ty name = some view) :
    table.Concrete view := by
  unfold ClassTable.asSupertype? at hview
  split at hview
  · cases hview
    exact concrete_named _
  · exact h.closure hscoped view (List.mem_of_find?_eq_some hview)

/-! ## Elements and entries -/

/-- An argument of a view has no variables, and neither has the root of all classes, which stands
for it where there is none. -/
theorem Concrete.argument {view : Ty} (h : table.Concrete view) (index : Nat) :
    ((view.args[index]?).getD .object).typeVars = [] := by
  cases harg : view.args[index]? with
  | none => rfl
  | some arg =>
    cases view with
    | declared name args => exact (h.arg (List.mem_of_getElem? harg)).closed
    | _ => cases harg

theorem Concrete.elementType? (hscoped : table.Scoped) {ty element : Ty} (h : table.Concrete ty)
    (helement : table.elementType? ty = some element) : element.typeVars = [] := by
  have hview : ∀ view, table.asSupertype? ty Platform.iterable = some view →
      (view.args.headD .object).typeVars = [] := by
    intro view hview
    rw [List.headD_eq_head?_getD, List.head?_eq_getElem?]
    exact (h.asSupertype? hscoped hview).argument 0
  unfold ClassTable.elementType? at helement
  split at helement
  · cases helement
    exact h.closed
  · obtain ⟨view, hfound, rfl⟩ := Option.map_eq_some_iff.1 helement
    exact hview view hfound

theorem Concrete.entryTypes? (hscoped : table.Scoped) {ty key value : Ty} (h : table.Concrete ty)
    (hentry : table.entryTypes? ty = some (key, value)) :
    key.typeVars = [] ∧ value.typeVars = [] := by
  obtain ⟨view, hview, heq⟩ := Option.map_eq_some_iff.1 hentry
  have hconcrete := h.asSupertype? hscoped hview
  cases heq
  refine ⟨?_, hconcrete.argument 1⟩
  rw [List.headD_eq_head?_getD, List.head?_eq_getElem?]
  exact hconcrete.argument 0

/-! ## Properties -/

/-- The type of a property keeps its variables if the class that declares it is seen without
arguments, and no other property has any. -/
theorem Concrete.typeVars_property (hscoped : table.Scoped) {ty read : Ty} {site : PropertySite}
    (h : table.Concrete ty) (hsite : site.IsIn table ty)
    (hread : table.parse site.decl.typeText = .ok read) :
    (site.property read).ty.typeVars = if site.view.isRaw then read.typeVars else [] := by
  have hview := h.closure hscoped site.view (List.mem_of_getElem? hsite.view)
  obtain ⟨name, args, hclass⟩ : ∃ name args, site.view = .declared name args := by
    cases hv : site.view with
    | declared name args => exact ⟨name, args, rfl⟩
    | _ => exact absurd hsite.owner (by rw [hv]; nofun)
  have howner : table.find? name = some site.owner := by
    have hdecl := hsite.owner
    rw [hclass] at hdecl
    exact hdecl
  have hvars : read.typeVars ⊆ site.owner.typeParams :=
    ((hscoped name site.owner howner).2 site.decl (List.mem_of_getElem? hsite.decl) read
      (by rw [hread]; rfl)).1
  rw [hclass] at hview
  rw [PropertySite.property, hclass, Ty.isRaw, Ty.args]
  -- without arguments there is nothing to put in the place of the parameters
  split
  · rename_i hraw
    rw [List.isEmpty_iff.1 hraw, List.zip_nil_right, substitute_nil]
  · rename_i hraw
    exact closed_zip hvars (length_params howner hview.isSupplied (by simp [hraw]))
      fun arg harg => (hview.arg harg).closed

/-- **Where variables are left.** Let every class be declared with types over its own parameters.
Seen from a type without variables, no supertype, element, key or value type mentions one; and the
type of a property mentions one exactly if the class that declares it is seen without arguments and
declares it with a type that mentions a parameter. -/
theorem leaves_variable_iff (hscoped : table.Scoped) {ty : Ty} (h : table.Concrete ty) :
    (∀ view ∈ table.closure ty, view.typeVars = []) ∧
    (∀ element, table.elementType? ty = some element → element.typeVars = []) ∧
    (∀ key value, table.entryTypes? ty = some (key, value) →
      key.typeVars = [] ∧ value.typeVars = []) ∧
    ∀ found, table.properties ty = .ok found → ∀ property ∈ found,
      ∃ (site : PropertySite) (read : Ty), site.IsFirst table ty ∧
        table.parse site.decl.typeText = .ok read ∧ property = site.property read ∧
        (property.ty.typeVars ≠ [] ↔ site.view.isRaw = true ∧ read.typeVars ≠ []) := by
  refine ⟨fun view hview => (h.closure hscoped view hview).closed,
    fun element => h.elementType? hscoped, fun key value => h.entryTypes? hscoped,
    fun found hfound property hmem => ?_⟩
  obtain ⟨site, read, hsite, hread, rfl⟩ := exists_site hfound hmem
  refine ⟨site, read, hsite, hread, rfl, ?_⟩
  rw [h.typeVars_property hscoped hsite.toIsIn hread]
  cases site.view.isRaw <;> simp

end ClassTable

/-! ## Jars in a cellar -/

namespace Cellar

/-- A jar has contents of some type. A shelf is a list of jars, of which nothing is said but that
they are jars, and is itself such a jar, with a label. -/
def classes : ClassTable := .declareAll {} [
  .plain Platform.string,
  (ClassDecl.interface Platform.iterable).generic ["T"] [],
  { ClassDecl.plain "cellar.Jar" with
    typeParams := ["C"]
    properties := [{ name := "contents", typeText := "C" }] },
  { ClassDecl.plain "cellar.Shelf" with
    typeParams := ["L"]
    supertypes := ["java.lang.Iterable<cellar.Jar>", "cellar.Jar"]
    properties := [{ name := "label", typeText := "L[]" }] }]

theorem classes_scoped : classes.Scoped := by decide +kernel

def shelf : Ty := .declared "cellar.Shelf" [.string]

theorem shelf_concrete : classes.Concrete shelf := ⟨by decide +kernel, by decide +kernel⟩

/-- The properties of such a shelf: its label, and its contents as those of a jar. -/
def shelfProperties : List Property := [
  ⟨"label", .array .string, true, true, false⟩,
  ⟨"contents", .typeVar "C", true, true, false⟩]

/-- The contents of a shelf are left with the variable of a jar, which the shelf is without
arguments; its label, its jars and its supertypes have none. -/
theorem leaves_variable_iff_shelf :
    classes.closure shelf =
      [shelf, .declared Platform.iterable [.named "cellar.Jar"], .named "cellar.Jar"] ∧
    (∀ view ∈ classes.closure shelf, view.typeVars = []) ∧
    classes.elementType? shelf = some (.named "cellar.Jar") ∧
    classes.properties shelf = .ok shelfProperties ∧
    ∀ property ∈ shelfProperties, ∃ (site : PropertySite) (read : Ty),
      site.IsFirst classes shelf ∧ classes.parse site.decl.typeText = .ok read ∧
      property = site.property read ∧
      (property.ty.typeVars ≠ [] ↔ site.view.isRaw = true ∧ read.typeVars ≠ []) := by
  have hfound : classes.properties shelf = .ok shelfProperties := by decide +kernel
  obtain ⟨hclosure, -, -, hproperties⟩ :=
    ClassTable.leaves_variable_iff classes_scoped shelf_concrete
  exact ⟨by decide +kernel, hclosure, by decide +kernel, hfound, hproperties _ hfound⟩

/-- The contents of a jar without arguments are of a type variable. -/
theorem not_always_closed :
    ¬ ∀ (table : ClassTable) (ty : Ty), table.Scoped → table.Concrete ty → ty.isDeclared = true →
      (∀ view ∈ table.closure ty, view.typeVars = []) ∧
      (∀ element, table.elementType? ty = some element → element.typeVars = []) ∧
      (∀ key value, table.entryTypes? ty = some (key, value) →
        key.typeVars = [] ∧ value.typeVars = []) ∧
      ∀ found, table.properties ty = .ok found → ∀ property ∈ found, property.ty.typeVars = [] := by
  intro h
  have hjar : classes.properties (.named "cellar.Jar") =
      .ok [⟨"contents", .typeVar "C", true, true, false⟩] := by decide +kernel
  have hclosed := (h classes (.named "cellar.Jar") classes_scoped (concrete_named _) rfl).2.2.2
    _ hjar _ List.mem_cons_self
  cases hclosed

end Cellar

end BeanMapper
