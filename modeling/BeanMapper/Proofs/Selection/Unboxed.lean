import BeanMapper.Proofs.Selection.Bindings
import Mathlib.Data.List.Nodup

/-!
# Values that are never null

Where a parameter or a result is nothing but a type parameter, a match asks that a value of the type
at hand may be null, but for a result that goes where `void` is asked for. Inside a type nothing is
asked: the components of arrays and the arguments of classes are matched exactly, and what stands
there is bound, a primitive type too. `Ty.Faces` says what stands where a variable does, `Ty.Takes`
and `Ty.Gives` where a match looks for it. Each step adds exactly these values to the bindings
(`exact_mem_iff`, `accepts_mem_iff`, `produces_mem_iff`), so the type parameters of a method are
bound to them and to no other value that is never null (`Selector.binds_not_nullable_iff`).
-/

namespace BeanMapper

open ClassTable

variable {table : ClassTable} {vars : List String} {b b' : Ty.Bindings} {x : String} {v : Ty}

/-! ## What stands where a variable does -/

namespace Ty

/-- Where the first type has the variable, the second has the value. -/
inductive Faces (x : String) (v : Ty) : Ty → Ty → Prop where
  | here : Faces x v (typeVar x) v
  | component {formal actual : Ty} (h : Faces x v formal actual) :
    Faces x v (array formal) (array actual)
  | argument {name : String} {formals actuals : List Ty} {formal actual : Ty}
    (hm : (formal, actual) ∈ formals.zip actuals) (h : Faces x v formal actual) :
    Faces x v (declared name formals) (declared name actuals)

/-- The value stands where the variable does inside the type of a parameter, compared with what the
parameter receives: with an array component by component, with anything else as a class. -/
inductive Takes (table : ClassTable) (x : String) (v : Ty) : Ty → Ty → Prop where
  | component {formal actual : Ty} (h : Faces x v formal actual) :
    Takes table x v (array formal) (array actual)
  | argument {name : String} {formals actuals : List Ty} {actual : Ty}
    (hview : table.asSupertype? actual name = some (declared name actuals))
    (h : Faces x v (declared name formals) (declared name actuals)) :
    Takes table x v (declared name formals) actual

/-- The value stands where the variable does inside a result type, compared with the type that is
asked for, or `void` is asked for and the result is the variable. -/
inductive Gives (table : ClassTable) (x : String) (v : Ty) : Ty → Ty → Prop where
  | void (hv : v = void) : Gives table x v (typeVar x) void
  | component {produced target : Ty} (h : Faces x v produced target) :
    Gives table x v (array produced) (array target)
  | argument {name : String} {views targets : List Ty} {produced : Ty}
    (hview : table.asSupertype? produced name = some (declared name views))
    (h : Faces x v (declared name views) (declared name targets)) :
    Gives table x v produced (declared name targets)

variable {formal actual : Ty}

theorem faces_typeVar_iff {name : String} :
    Faces x v (typeVar name) actual ↔ (x, v) = (name, actual) := by
  constructor
  · intro h
    cases h with
    | here => rfl
  · intro h
    cases h
    exact .here

theorem faces_array_iff :
    Faces x v (array formal) (array actual) ↔ Faces x v formal actual := by
  refine ⟨fun h => ?_, .component⟩
  cases h with
  | component h => exact h

theorem faces_declared_iff {name : String} {formals actuals : List Ty} :
    Faces x v (declared name formals) (declared name actuals) ↔
      ∃ formal actual, (formal, actual) ∈ formals.zip actuals ∧ Faces x v formal actual := by
  constructor
  · intro h
    cases h with
    | argument hm h => exact ⟨_, _, hm, h⟩
  · rintro ⟨_, _, hm, h⟩
    exact .argument hm h

theorem Faces.mem_typeVars (h : Faces x v formal actual) : x ∈ formal.typeVars := by
  induction h with
  | here => exact List.mem_singleton_self x
  | component _ ih => exact ih
  | argument hm _ ih => exact mem_typeVars_declared.2 ⟨_, (List.of_mem_zip hm).1, ih⟩

theorem Faces.not_closed (h : Faces x v formal actual) : table.wellFormed [] formal ≠ true :=
  fun hc => List.not_mem_nil (typeVars_of_wellFormed hc h.mem_typeVars)

/-- Bindings that make the types equal give the variable the value that stands in its place. -/
theorem Faces.substitute (h : Faces x v formal actual) (he : formal.substitute b = actual) :
    (typeVar x).substitute b = v := by
  induction h with
  | here => exact he
  | component _ ih =>
    rw [Ty.substitute, array.injEq] at he
    exact ih he
  | @argument name formals actuals formal actual hm _ ih =>
    rw [substitute_declared, declared.injEq] at he
    rw [← he.2, ← List.map_prod_left_eq_zip, List.mem_map] at hm
    obtain ⟨arg, -, hpair⟩ := hm
    cases hpair
    exact ih rfl

/-- What stands where a variable does that is still open, stands there from the start. -/
theorem Faces.of_substitute (hb : b.Closed table) (h : Faces x v (formal.substitute b) actual) :
    Faces x v formal actual := by
  induction formal using Ty.byParts generalizing actual with
  | void => cases h
  | primitive p => cases h
  | declared name args ih =>
    rw [substitute_declared] at h
    cases h with
    | argument hm hface =>
      rw [List.zip_map_left, List.mem_map] at hm
      obtain ⟨⟨arg, other⟩, hm, hpair⟩ := hm
      cases hpair
      exact .argument hm (ih arg (List.of_mem_zip hm).1 hface)
  | array component ih =>
    cases h with
    | component hface => exact .component (ih hface)
  | typeVar name =>
    rcases open_or_closed hb name with ⟨-, hopen⟩ | hclosed
    · rwa [hopen] at h
    · exact absurd hclosed h.not_closed

theorem Faces.args_ne_nil {name : String} {formals actuals : List Ty}
    (h : Faces x v (declared name formals) (declared name actuals)) :
    formals ≠ [] ∧ actuals ≠ [] := by
  obtain ⟨_, _, hm, -⟩ := faces_declared_iff.1 h
  exact ⟨List.ne_nil_of_mem (List.of_mem_zip hm).1, List.ne_nil_of_mem (List.of_mem_zip hm).2⟩

end Ty

/-! ## Values of bindings -/

theorem Ty.Bindings.mem_insert_iff {e : String × Ty} (h : b.value? x = none) :
    e ∈ b.insert x v ↔ e ∈ b ∨ e = (x, v) := by
  have hnone : (b.lookup x).isSome = false := by
    rw [value?, List.lookup_eq_none_iff] at h
    rw [Option.isSome_eq_false_iff, Option.isNone_iff_eq_none, List.lookup_eq_none_iff]
    exact fun e he => h e (List.mem_reverse.2 he)
  rw [insert, hnone, if_neg Bool.false_ne_true, List.mem_append, List.mem_singleton]

/-- A variable that bindings turn into another type has that value. -/
theorem Ty.Bindings.mem_of_substitute (h : (Ty.typeVar x).substitute b = v)
    (hv : v.isNullable = false) : (x, v) ∈ b := by
  cases hx : b.value? x with
  | none =>
    rw [Ty.substitute, hx, Option.getD_none] at h
    subst h
    cases hv
  | some bound =>
    rw [Ty.substitute, hx, Option.getD_some] at h
    subst h
    exact mem_of_value? hx

/-! ## Types that fit without a match -/

namespace ClassTable

/-- The root of all classes is declared, and is not generic. -/
def PlainRoot (table : ClassTable) : Prop :=
  ∃ decl ∈ table.find? Platform.object, decl.typeParams = []

/-- Arguments that fit others without variables are the same. -/
theorem eq_of_argsFit {actuals expected : List Ty} (h : argsFit actuals expected = true)
    (hc : ∀ ty ∈ expected, table.wellFormed [] ty = true) : actuals = expected := by
  simp only [argsFit, Bool.and_eq_true, decide_eq_true_eq, List.all_eq_true,
    Bool.or_eq_true] at h
  refine List.forall₂_eq_eq_eq ▸ List.forall₂_iff_zip.2 ⟨h.1, fun {a c} hm => ?_⟩
  rcases h.2 (a, c) hm with heq | hvar
  · exact heq
  · have hclosed := hc c (List.of_mem_zip hm).2
    cases c with
    | typeVar name => simp [wellFormed] at hclosed
    | _ => cases hvar

theorem asSupertype?_self {name : String} (args : List Ty) (h : name ≠ Platform.object) :
    table.asSupertype? (.declared name args) name = some (.declared name args) := by
  rw [asSupertype?, if_neg fun hroot => h hroot.1, closure, searchFuel, closureFrom,
    if_neg List.not_mem_nil, List.find?_cons_of_pos]
  exact decide_eq_true rfl

/-- The view as the root of all classes has no arguments. -/
theorem ne_object_of_view {ty : Ty} {name : String} {actuals : List Ty}
    (hview : table.asSupertype? ty name = some (.declared name actuals)) (h : actuals ≠ []) :
    name ≠ Platform.object := by
  rintro rfl
  have hclass : ty.isDeclared = true ∨ ty.isArray = true :=
    (shape_of_asSupertype? hview).imp_right And.left
  rw [asSupertype?, if_pos ⟨rfl, hclass⟩] at hview
  cases hview
  exact h rfl

/-- A type that fits a class with arguments has these as its arguments in the view of that class. -/
theorem args_eq_of_view {ty : Ty} {name : String} {actuals expected : List Ty}
    (hview : table.asSupertype? ty name = some (.declared name actuals))
    (hfits : table.isAssignable ty (.declared name expected) = true) (hactuals : actuals ≠ [])
    (hexpected : expected ≠ []) (hc : ∀ arg ∈ expected, table.wellFormed [] arg = true) :
    actuals = expected := by
  -- a view with arguments is not that of the root, which has none
  have hroot := ne_object_of_view hview hactuals
  cases ty with
  | declared own args =>
    rw [isAssignable] at hfits
    split at hfits
    · rename_i hsame
      cases hsame
      rw [asSupertype?_self _ hroot] at hview
      cases hview
      rfl
    · rw [hview] at hfits
      simp only [List.isEmpty_eq_false_iff.2 hexpected, Ty.isRaw, Ty.args,
        List.isEmpty_eq_false_iff.2 hactuals, Bool.false_or] at hfits
      exact eq_of_argsFit hfits hc
  | _ =>
    rcases shape_of_asSupertype? hview with hclass | ⟨-, hname⟩
    · cases hclass
    · exact absurd hname hroot

/-- A class with arguments fits only itself of the classes of its name. -/
theorem args_eq_of_isAssignable (hroot : table.PlainRoot) {name : String}
    {actuals expected : List Ty}
    (ha : table.wellFormed [] (.declared name actuals) = true)
    (he : table.wellFormed [] (.declared name expected) = true)
    (hfits : table.isAssignable (.declared name actuals) (.declared name expected) = true)
    (hactuals : actuals ≠ []) (hexpected : expected ≠ []) : actuals = expected := by
  rw [wellFormed_declared] at ha he
  have hname : name ≠ Platform.object := by
    rintro rfl
    obtain ⟨decl, hd, hparams⟩ := hroot
    have hlength := length_eq_of_admits ha.2.1 hd hactuals
    rw [hparams] at hlength
    exact hactuals (List.length_eq_zero_iff.1 hlength.symm)
  exact args_eq_of_view (asSupertype?_self actuals hname) hfits hactuals hexpected he.2.2

theorem isAssignable_component {actual expected : Ty}
    (h : table.isAssignable (.array actual) (.array expected) = true) :
    table.isAssignable actual expected = true := by
  rw [isAssignable] at h
  split at h
  · rename_i hsame
    rw [hsame]
    exact isAssignable_refl table expected
  · split at h
    · cases h
    · exact h

/-- A type whose values are never null fits itself only, and nothing else fits it. -/
theorem eq_of_not_nullable {ty : Ty} (hv : v.isNullable = false)
    (h : table.isAssignable v ty = true ∨ table.isAssignable ty v = true) : ty = v := by
  cases v with
  | void => cases ty <;> simp_all [isAssignable]
  | primitive p => rcases h with h | h <;> cases ty <;> simp_all [isAssignable]
  | _ => cases hv

end ClassTable

/-- Types that fit in one direction agree where a value stands that is never null. -/
theorem Ty.Faces.substitute_of_isAssignable {formal actual : Ty} (hroot : table.PlainRoot)
    (h : Faces x v formal actual) (ha : table.wellFormed [] actual = true)
    (hg : table.wellFormed [] (formal.substitute b) = true)
    (hfits : table.isAssignable actual (formal.substitute b) = true ∨
      table.isAssignable (formal.substitute b) actual = true)
    (hv : v.isNullable = false) : (typeVar x).substitute b = v := by
  induction h with
  | here => exact eq_of_not_nullable hv hfits
  | component _ ih => exact ih ha hg (hfits.imp isAssignable_component isAssignable_component)
  | @argument name formals actuals formal actual hm h _ =>
    have hface : Faces x v (declared name formals) (declared name actuals) := .argument hm h
    obtain ⟨hne, hactuals⟩ := hface.args_ne_nil
    have hformals : formals.map (Ty.substitute b) ≠ [] := mt List.map_eq_nil_iff.1 hne
    rw [substitute_declared] at hg hfits
    -- Classes of one name fit only if they are equal, so nothing is left to look for inside.
    refine hface.substitute ?_
    rw [substitute_declared]
    refine congrArg _ ?_
    rcases hfits with hfits | hfits
    · exact (args_eq_of_isAssignable hroot ha hg hfits hactuals hformals).symm
    · exact args_eq_of_isAssignable hroot hg ha hfits hformals hactuals

/-- What fits the type of a parameter has the values in it that the variables have. -/
theorem Ty.Takes.substitute {formal actual : Ty} (hroot : table.PlainRoot)
    (h : Takes table x v formal actual) (ha : table.wellFormed [] actual = true)
    (hg : table.wellFormed [] (formal.substitute b) = true)
    (hfits : table.isAssignable actual (formal.substitute b) = true)
    (hv : v.isNullable = false) : (typeVar x).substitute b = v := by
  cases h with
  | component hface =>
    exact (Faces.component hface).substitute_of_isAssignable hroot ha hg (Or.inl hfits) hv
  | argument hview hface =>
    obtain ⟨hformals, hactuals⟩ := hface.args_ne_nil
    rw [substitute_declared] at hg hfits
    refine hface.substitute ?_
    rw [substitute_declared, args_eq_of_view hview hfits hactuals
      (mt List.map_eq_nil_iff.1 hformals) (wellFormed_declared.1 hg).2.2]

theorem ClassTable.not_isTypeVar_of_view {ty view : Ty} {name : String}
    (hview : table.asSupertype? ty name = some view) : ty.isTypeVar = false := by
  cases ty with
  | typeVar name => rcases shape_of_asSupertype? hview with h | ⟨h, -⟩ <;> cases h
  | _ => rfl

/-- A result that fits has the values in it that the variables have. -/
theorem Ty.Gives.substitute {produced target : Ty} (hT : table.SupertypesWellFormed)
    (hroot : table.PlainRoot) (h : Gives table x v produced target)
    (hp : table.wellFormed vars produced = true) (ht : table.wellFormed [] target = true)
    (hg : table.wellFormed [] (produced.substitute b) = true)
    (hfits : table.isAssignable (produced.substitute b) target = true)
    (hv : v.isNullable = false) : (typeVar x).substitute b = v := by
  cases h with
  | void hvoid =>
    subst hvoid
    exact eq_of_not_nullable hv (Or.inr hfits)
  | component hface =>
    exact (Faces.component hface).substitute_of_isAssignable hroot ht hg (Or.inr hfits) hv
  | @argument name views targets _ hview hface =>
    obtain ⟨hviews, htargets⟩ := hface.args_ne_nil
    have hinstance : table.asSupertype? (produced.substitute b) name =
        some (declared name (views.map (Ty.substitute b))) := by
      rw [asSupertype?_substitute hT.uniform b name (isSupplied_of_wellFormed hp)
        (not_isTypeVar_of_view hview), hview, Option.map_some, substitute_declared]
    refine hface.substitute ?_
    rw [substitute_declared, args_eq_of_view hinstance hfits
      (mt List.map_eq_nil_iff.1 hviews) htargets (wellFormed_declared.1 ht).2.2]

namespace Matching

open Ty

/-! ## Exact matches -/

/-- What an exact match of a type adds to the bindings. -/
def ExactBinds (table : ClassTable) (vars : List String) (x : String) (v formal : Ty) : Prop :=
  ∀ actual b b', table.wellFormed [] actual = true → exact vars b formal actual = some b' →
    ((x, v) ∈ b' ↔ (x, v) ∈ b ∨ Faces x v formal actual)

theorem exactAll_mem_iff_of {formals actuals : List Ty}
    (hf : ∀ f ∈ formals, ExactBinds table vars x v f)
    (ha : ∀ a ∈ actuals, table.wellFormed [] a = true)
    (h : exactAll vars b formals actuals = some b') :
    (x, v) ∈ b' ↔ (x, v) ∈ b ∨ ∃ f a, (f, a) ∈ formals.zip actuals ∧ Faces x v f a := by
  induction formals generalizing actuals b with
  | nil =>
    cases actuals with
    | nil => cases h; simp
    | cons a as => cases h
  | cons f fs ih =>
    cases actuals with
    | nil => cases h
    | cons a as =>
      simp only [exactAll, Option.bind_eq_bind, Option.bind_eq_some_iff] at h
      obtain ⟨b₁, h₁, h₂⟩ := h
      rw [ih (fun g hg => hf g (by simp [hg])) (fun t ht => ha t (by simp [ht])) h₂,
        hf f (by simp) a b b₁ (ha a (by simp)) h₁, or_assoc]
      refine or_congr_right ?_
      simp only [List.zip_cons_cons, List.mem_cons, Prod.mk.injEq]
      constructor
      · rintro (hface | ⟨g, t, hm, hface⟩)
        · exact ⟨f, a, Or.inl ⟨rfl, rfl⟩, hface⟩
        · exact ⟨g, t, Or.inr hm, hface⟩
      · rintro ⟨g, t, ⟨rfl, rfl⟩ | hm, hface⟩
        · exact Or.inl hface
        · exact Or.inr ⟨g, t, hm, hface⟩

/-- Without a variable an exact match binds nothing. -/
theorem exactBinds_of_not_mentions {formal : Ty} (hf : table.wellFormed vars formal = true)
    (hm : mentions vars formal = false) : ExactBinds table vars x v formal := by
  intro actual b b' _ h
  obtain ⟨rfl, rfl⟩ := same_of_exact hf hm h
  exact (or_iff_left fun hface => hface.not_closed (wellFormed_of_not_mentions hf hm)).symm

/-- An exact match binds what stands where the variables do. -/
theorem exact_mem_iff {formal : Ty} (hf : table.wellFormed vars formal = true) :
    ExactBinds table vars x v formal := by
  induction formal using Ty.byParts with
  | void => exact exactBinds_of_not_mentions hf rfl
  | primitive p => exact exactBinds_of_not_mentions hf rfl
  | typeVar name =>
    intro actual b b' _ h
    have hx : name ∈ vars := by simpa [wellFormed] using hf
    rw [faces_typeVar_iff]
    simp only [exact, hx, if_true] at h
    cases hbound : b.value? name with
    | none =>
      rw [hbound] at h
      cases h
      exact Ty.Bindings.mem_insert_iff hbound
    | some bound =>
      simp only [hbound] at h
      split at h <;> cases h
      rename_i hsame
      subst hsame
      -- the variable already has this value, so nothing comes to the bindings
      exact (or_iff_left_of_imp fun heq => heq ▸ Ty.Bindings.mem_of_value? hbound).symm
  | array component ih =>
    cases hm : mentions vars component with
    | false => exact exactBinds_of_not_mentions hf hm
    | true =>
      intro actual b b' ha h
      obtain ⟨component', rfl, hcomponent⟩ := exact_array hm ha h
      rw [ih hf component' b b' ha hcomponent, faces_array_iff]
  | declared name args ih =>
    cases hm : mentionsAny vars args with
    | false => exact exactBinds_of_not_mentions hf hm
    | true =>
      intro actual b b' ha h
      have hw := wellFormed_declared.1 hf
      obtain ⟨args', rfl, hargs⟩ := exact_declared hm hw.1 ha h
      rw [exactAll_mem_iff_of (fun f hm => ih f hm (hw.2.2 f hm))
        (wellFormed_declared.1 ha).2.2 hargs, faces_declared_iff]

/-- Arguments that are matched one by one bind what stands where the variables of the class do. -/
theorem exactAll_mem_iff {name : String} {formals actuals : List Ty}
    (hf : ∀ f ∈ formals, table.wellFormed vars f = true)
    (ha : ∀ a ∈ actuals, table.wellFormed [] a = true)
    (h : exactAll vars b formals actuals = some b') :
    (x, v) ∈ b' ↔ (x, v) ∈ b ∨ Faces x v (declared name formals) (declared name actuals) := by
  rw [exactAll_mem_iff_of (fun f hm => exact_mem_iff (hf f hm)) ha h, faces_declared_iff]

/-! ## Accepted and produced values -/

/-- A match of what is still open in a type binds what stands where its variables do. -/
theorem mem_iff_of_match {formal view : Ty} (hb : b.Closed table) (hv : v.isNullable = false)
    (he : formal.substitute b' = view)
    (h : (x, v) ∈ b' ↔ (x, v) ∈ b ∨ Faces x v (formal.substitute b) view) :
    (x, v) ∈ b' ↔ (x, v) ∈ b ∨ Faces x v formal view := by
  constructor
  · intro hmem
    exact (h.1 hmem).imp_right fun hface => hface.of_substitute hb
  · rintro (hmem | hface)
    · exact h.2 (Or.inl hmem)
    · exact Ty.Bindings.mem_of_substitute (hface.substitute he) hv

/-- The components of arrays are matched exactly. -/
theorem component_mem_iff {ty component component' : Ty}
    (hty : table.wellFormed vars ty = true) (ha : table.wellFormed [] component' = true)
    (hb : b.Closed table) (hv : v.isNullable = false) (heq : ty.substitute b = array component)
    (h : exact vars b component component' = some b') :
    (x, v) ∈ b' ↔ (x, v) ∈ b ∨ Faces x v ty (array component') := by
  have hg : table.wellFormed vars component = true := by
    have hg := wellFormed_substitute_closed hty hb
    rwa [heq] at hg
  obtain ⟨hi, he⟩ := exact_sound hg component' b b' ha hb h
  refine mem_iff_of_match hb hv ?_ ?_
  · rw [← substitute_extends ty hb hi.keeps, heq, Ty.substitute, he]
  · rw [exact_mem_iff hg component' b b' ha h, heq, faces_array_iff]

/-- The arguments of a class are matched exactly. -/
theorem arguments_mem_iff {ty : Ty} {name : String} {args args' : List Ty}
    (hty : table.wellFormed vars ty = true) (ha : ∀ arg ∈ args', table.wellFormed [] arg = true)
    (hb : b.Closed table) (hv : v.isNullable = false) (heq : ty.substitute b = declared name args)
    (h : exactAll vars b args args' = some b') :
    (x, v) ∈ b' ↔ (x, v) ∈ b ∨ Faces x v ty (declared name args') := by
  have hg : ∀ arg ∈ args, table.wellFormed vars arg = true := by
    have hg := wellFormed_substitute_closed hty hb
    rw [heq, wellFormed_declared] at hg
    exact hg.2.2
  obtain ⟨hi, he⟩ := exactAll_sound hg ha hb h
  refine mem_iff_of_match hb hv ?_ ?_
  · rw [← substitute_extends ty hb hi.keeps, heq, substitute_declared, he]
  · rw [exactAll_mem_iff hg ha h, heq]

/-- An array is compared with what becomes an array as it is. -/
theorem faces_iff_takes_array {formal component actual : Ty} (hv : v.isNullable = false)
    (heq : formal.substitute b = array component) :
    Faces x v formal (array actual) ↔ Takes table x v formal (array actual) := by
  constructor
  · intro hface
    cases hface with
    | here => cases hv
    | component hface => exact .component hface
  · intro htakes
    cases htakes with
    | component hface => exact .component hface
    | argument _ _ => simp [substitute_declared] at heq

/-- What becomes a class is compared with the view of that class. -/
theorem faces_iff_takes_view {formal actual : Ty} {name : String} {args actuals : List Ty}
    (hv : v.isNullable = false) (heq : formal.substitute b = declared name args)
    (hview : table.asSupertype? actual name = some (declared name actuals)) :
    Faces x v formal (declared name actuals) ↔ Takes table x v formal actual := by
  constructor
  · intro hface
    cases hface with
    | here => cases hv
    | argument hm hface => exact .argument hview (.argument hm hface)
  · intro htakes
    cases htakes with
    | component _ => simp [Ty.substitute] at heq
    | argument hview' hface =>
      rw [substitute_declared, declared.injEq] at heq
      obtain ⟨rfl, -⟩ := heq
      rw [hview', Option.some.injEq] at hview
      rwa [← hview]

/-- A type that mentions a variable without being one is no variable. -/
theorem not_isTypeVar_of_mentions {ty : Ty} (hb : b.Closed table)
    (hvar : isVar vars (ty.substitute b) = false)
    (hm : mentions vars (ty.substitute b) = true) : ty.isTypeVar = false := by
  cases ty with
  | typeVar name =>
    rcases open_or_closed hb name with ⟨-, hopen⟩ | hclosed
    · rw [hopen] at hvar hm
      exact absurd (hvar.symm.trans hm) Bool.false_ne_true
    · exact absurd ((not_mentions_of_closed hclosed).symm.trans hm) Bool.false_ne_true
  | _ => rfl

/-- Of values that are never null, acceptance binds those that stand where a variable does inside
the type of the parameter. -/
theorem accepts_mem_iff (hT : table.SupertypesWellFormed) (hroot : table.PlainRoot)
    {formal actual : Ty} (hf : table.wellFormed vars formal = true)
    (ha : table.wellFormed [] actual = true) (hb : b.Closed table)
    (hv : v.isNullable = false) (h : accepts table vars b formal actual = some b') :
    (x, v) ∈ b' ↔ (x, v) ∈ b ∨ Takes table x v formal actual := by
  have hg := wellFormed_substitute_closed hf hb
  rcases accepts_cases h with ⟨hvar, hnullable, rfl⟩ | ⟨hm, rfl, hfits⟩ |
    ⟨component, component', heq, rfl, hexact⟩ | ⟨hvar, hm, view, hview, hargs⟩
  · obtain ⟨y, rfl, hy, hopen⟩ := unbound_of_isVar hb hvar
    rw [hy, Ty.qualifiedName, Ty.Bindings.mem_insert_iff hopen]
    refine or_congr_right (iff_of_false ?_ fun htakes => by cases htakes)
    rintro ⟨rfl, rfl⟩
    rw [hnullable] at hv
    cases hv
  · -- Nothing is bound, but all variables of the type are: they have the values already.
    have hclosed := wellFormed_of_not_mentions hg hm
    refine (or_iff_left_of_imp fun htakes => ?_).symm
    exact Ty.Bindings.mem_of_substitute (htakes.substitute hroot ha hclosed hfits hv) hv
  · rw [← faces_iff_takes_array hv heq]
    exact component_mem_iff hf ha hb hv heq hexact
  · obtain ⟨hname, hwview⟩ := wellFormed_asSupertype? hT ha hview
    rw [hname, wellFormed_declared] at hwview
    have hclass := declared_of_view hg hvar hm hwview.1
    rw [hname] at hview
    rw [← faces_iff_takes_view hv hclass hview]
    rcases hargs with ⟨hraw, rfl⟩ | hargs
    · rw [hraw]
      refine (or_iff_left fun hface => ?_).symm
      cases hface with
      | here => cases hv
      | argument hm _ => exact List.not_mem_nil (List.of_mem_zip hm).2
    · exact arguments_mem_iff hf hwview.2.2 hb hv hclass hargs

theorem faces_iff_gives_array {produced target : Ty} (hv : v.isNullable = false) :
    Faces x v produced (array target) ↔ Gives table x v produced (array target) := by
  constructor
  · intro hface
    cases hface with
    | here => cases hv
    | component hface => exact .component hface
  · intro hgives
    cases hgives with
    | component hface => exact .component hface

theorem faces_iff_gives_view {produced : Ty} {name : String} {views targets : List Ty}
    (hview : table.asSupertype? produced name = some (declared name views)) :
    Faces x v (declared name views) (declared name targets) ↔
      Gives table x v produced (declared name targets) := by
  constructor
  · exact .argument hview
  · intro hgives
    cases hgives with
    | argument hview' hface =>
      rw [hview', Option.some.injEq] at hview
      rwa [← hview]

/-- Of values that are never null, a match of a result binds those that stand where a variable does
inside it, and `void`. -/
theorem produces_mem_iff (hT : table.SupertypesWellFormed) (hroot : table.PlainRoot)
    {produced target : Ty} (hp : table.wellFormed vars produced = true)
    (ht : table.wellFormed [] target = true) (hb : b.Closed table)
    (hv : v.isNullable = false) (h : produces table vars b produced target = some b') :
    (x, v) ∈ b' ↔ (x, v) ∈ b ∨ Gives table x v produced target := by
  have hg := wellFormed_substitute_closed hp hb
  rcases produces_cases h with ⟨hvar, hprimitive, rfl⟩ | ⟨hm, rfl, hfits⟩ |
    ⟨component, component', heq, rfl, hexact⟩ | ⟨hvar, hm, view, hview, hargs⟩
  · obtain ⟨y, rfl, hy, hopen⟩ := unbound_of_isVar hb hvar
    rw [hy, Ty.qualifiedName, Ty.Bindings.mem_insert_iff hopen]
    refine or_congr_right ⟨?_, ?_⟩
    · rintro ⟨rfl, rfl⟩
      -- what is never null is primitive or void, and no primitive type is bound as a whole
      cases v with
      | void => exact .void rfl
      | primitive p => cases hprimitive
      | _ => cases hv
    · intro hgives
      cases hgives with
      | void hvoid => rw [hvoid]
      | argument hview _ => cases not_isTypeVar_of_view hview
  · have hclosed := wellFormed_of_not_mentions hg hm
    refine (or_iff_left_of_imp fun hgives => ?_).symm
    exact Ty.Bindings.mem_of_substitute (hgives.substitute hT hroot hp ht hclosed hfits hv) hv
  · rw [← faces_iff_gives_array hv]
    exact component_mem_iff hp ht hb hv heq hexact
  · have hopen := not_isTypeVar_of_mentions hb hvar hm
    rw [asSupertype?_substitute hT.uniform b _ (isSupplied_of_wellFormed hp) hopen,
      Option.map_eq_some_iff] at hview
    obtain ⟨view, hview, rfl⟩ := hview
    obtain ⟨hname, hwview⟩ := wellFormed_asSupertype? hT hp hview
    have hclass := declared_of_className ht (wellFormed_declared.1 (hname ▸ hwview)).1
    -- the target is the class that the view is of, so it is told by its name and its arguments
    generalize target.qualifiedName = name at hview hname hclass
    generalize target.args = targets at hclass hargs
    subst hclass
    rw [hname] at hview
    rw [← faces_iff_gives_view hview]
    rcases hargs with ⟨rfl, rfl⟩ | hargs
    -- a raw target asks for no arguments, and has none to face
    · refine (or_iff_left fun hface => ?_).symm
      exact hface.args_ne_nil.2 rfl
    · rw [hname, substitute_declared] at hargs
      exact arguments_mem_iff (hname ▸ hwview) (wellFormed_declared.1 ht).2.2 hb hv
        (substitute_declared b name view.args) hargs

end Matching

/-! ## A whole method -/

/-- What a parameter of this type receives has the value where its type has the variable. -/
def BoundValue.Exposes (request : Request) (ty : Ty) (x : String) (v : Ty) : BoundValue → Prop
  | sourceValue => ∃ source, request.source = some source ∧ Ty.Takes request.table x v ty source
  | mappingTarget => Ty.Takes request.table x v ty request.target
  | targetType target => ∃ arg, ty.args.head? = some arg ∧ Ty.Faces x v arg target
  | context argument => ∃ available ∈ request.context, available.name = argument ∧
      Ty.Takes request.table x v ty available.ty

namespace Matching

variable {request : Request}

theorem ParameterBound.mem_iff (hr : request.WellFormed) (hroot : request.table.PlainRoot)
    (hnames : (request.context.map Parameter.name).Nodup) {parameter : Parameter}
    {value : BoundValue} (hp : request.table.wellFormed vars parameter.ty = true)
    (hb : b.Closed request.table) (hv : v.isNullable = false)
    (h : ParameterBound request vars b b' parameter value) :
    (x, v) ∈ b' ↔ (x, v) ∈ b ∨ value.Exposes request parameter.ty x v := by
  cases h with
  | @source source _ hsource haccepts =>
    rw [accepts_mem_iff hr.supertypes hroot hp (hr.source source hsource) hb hv haccepts]
    simp [BoundValue.Exposes, hsource]
  | mappingTarget _ haccepts =>
    exact accepts_mem_iff hr.supertypes hroot hp hr.target hb hv haccepts
  | anyClass _ hraw hkept =>
    subst hkept
    simp [BoundValue.Exposes, hraw]
  | classOf _ hargs hexact =>
    have harg := wellFormed_args hp _ (hargs ▸ List.mem_cons_self)
    rw [exact_mem_iff harg _ b b' hr.target hexact]
    simp [BoundValue.Exposes, hargs]
  | @context available _ hm haccepts =>
    rw [accepts_mem_iff hr.supertypes hroot hp (hr.context available hm) hb hv haccepts]
    refine or_congr_right ⟨fun htakes => ⟨available, hm, rfl, htakes⟩, ?_⟩
    -- a context parameter is told by its name
    rintro ⟨other, hother, hname, htakes⟩
    exact List.inj_on_of_nodup_map hnames hother hm hname ▸ htakes

theorem bindParameters_mem_iff (hr : request.WellFormed) (hroot : request.table.PlainRoot)
    (hnames : (request.context.map Parameter.name).Nodup) {parameters : List Parameter}
    {bound : List Binding} (hp : ∀ p ∈ parameters, request.table.wellFormed vars p.ty = true)
    (hb : b.Closed request.table) (hv : v.isNullable = false)
    (h : bindParameters request vars b parameters = some (bound, b')) :
    (x, v) ∈ b' ↔
      (x, v) ∈ b ∨ ∃ binding ∈ bound, binding.value.Exposes request binding.ty x v := by
  induction parameters generalizing b bound with
  | nil => cases h; simp
  | cons p rest ih =>
    obtain ⟨value, b₁, bound', h₁, h₂, rfl⟩ := bindParameters_cons h
    obtain ⟨hi, -⟩ := h₁.sound hr (hp p (by simp)) hb
    rw [ih (fun q hq => hp q (by simp [hq])) hi.closed h₂,
      h₁.mem_iff hr hroot hnames (hp p (by simp)) hb hv, or_assoc]
    simp only [List.mem_cons, exists_eq_or_imp]

theorem ResultBound.mem_iff (hr : request.WellFormed) (hroot : request.table.PlainRoot)
    {candidate : Candidate} (hc : candidate.toSignature.WellFormed request.table)
    (hb : b.Closed request.table) (hv : v.isNullable = false)
    (h : ResultBound request candidate b b') :
    (x, v) ∈ b' ↔ (x, v) ∈ b ∨ (candidate.GivesResult ∧
      Ty.Gives request.table x v candidate.returnType request.target) := by
  rcases h.matched_or_kept with ⟨hgives, hproduces⟩ | ⟨hnone, rfl⟩
  · rw [produces_mem_iff hr.supertypes hroot hc.result hr.target hb hv hproduces,
      and_iff_right hgives]
  · exact (or_iff_left fun hgives => hnone hgives.1).symm

end Matching

/-- **Which values of type parameters are never null.** In a request about well-formed types, a
method that the type selector keeps has a type parameter bound to a primitive type or to `void`
exactly if that stands where the parameter does inside the type of something that the method
receives, or inside the result, or if the result is the parameter and `void` is asked for. -/
theorem Selector.binds_not_nullable_iff {request : Request} {selected : List Selected}
    {s : Selected} (hr : request.WellFormed)
    (hc : s.candidate.toSignature.WellFormed request.table) (hroot : request.table.PlainRoot)
    (hnames : (request.context.map Parameter.name).Nodup)
    (hs : s ∈ Selector.type.apply request selected) {x : String} {v : Ty}
    (hv : v.isNullable = false) :
    (x, v) ∈ s.typeBindings ↔
      (∃ binding ∈ s.bindings, binding.value.Exposes request binding.ty x v) ∨
        (s.candidate.GivesResult ∧
          Ty.Gives request.table x v s.candidate.returnType request.target) := by
  obtain ⟨b, hparameters, hresult⟩ := Matching.bind?_eq_some (Selector.mem_apply_type_iff.1 hs).2
  obtain ⟨hi, -⟩ := Matching.bindParameters_sound hr hc.parameters (Matching.closed_nil _)
    hparameters
  rw [hresult.mem_iff hr hroot hc hi.closed hv, Matching.bindParameters_mem_iff hr hroot hnames
    hc.parameters (Matching.closed_nil _) hv hparameters]
  simp

/-! ## Numbers in an array -/

namespace Abacus

def classes : ClassTable := .declareAll {} [
  .plain Platform.object, .plain Platform.string, .plain "abacus.Frame"]

/-- Writes the things of an array, as wide as a frame. -/
def write : Candidate where
  name := "write"
  parameters := [
    { name := "things", ty := .array (.typeVar "T") },
    { name := "frame", ty := .named "abacus.Frame", role := .context }]
  returnType := .string
  typeParameters := ["T"]
  owner := some (.named "abacus.Writer")

/-- A text is asked for, and there are an array of numbers and a frame. -/
def request : Request where
  table := classes
  criteria := .mapping
  source := some (.array (.primitive .int))
  target := .string
  context := [{ name := "frame", ty := .named "abacus.Frame", role := .context }]

/-- The method as it is kept: it takes the numbers as things. -/
def kept : Selected where
  index := 0
  candidate := write
  bindings := [⟨"things", .array (.typeVar "T"), .sourceValue⟩,
    ⟨"frame", .named "abacus.Frame", .context "frame"⟩]
  typeBindings := [("T", .primitive .int)]

theorem request_wellFormed : request.WellFormed where
  supertypes := by decide +kernel
  source := by
    rintro source ⟨⟩
    decide +kernel
  target := by decide +kernel
  context := by decide +kernel

theorem write_wellFormed : write.toSignature.WellFormed classes :=
  ⟨by decide +kernel, by decide +kernel⟩

theorem kept_of_write : kept ∈ Selector.type.apply request (Selected.ofCandidates [write]) := by
  decide +kernel

/-- The numbers stand where the things do, so these are numbers. -/
theorem binds_not_nullable_iff_write : request.WellFormed ∧ write.toSignature.WellFormed classes ∧
    classes.PlainRoot ∧ (request.context.map Parameter.name).Nodup ∧
    kept ∈ Selector.type.apply request (Selected.ofCandidates [write]) ∧
    (Ty.primitive .int).isNullable = false ∧
    (∃ binding ∈ kept.bindings,
      binding.value.Exposes request binding.ty "T" (.primitive .int)) ∧
    ("T", Ty.primitive .int) ∈ kept.typeBindings := by
  have hroot : classes.PlainRoot := ⟨.plain Platform.object, by decide +kernel, rfl⟩
  have hnames : (request.context.map Parameter.name).Nodup := by decide
  have hexposed : ∃ binding ∈ kept.bindings,
      binding.value.Exposes request binding.ty "T" (.primitive .int) :=
    ⟨_, List.mem_cons_self, _, rfl, .component .here⟩
  exact ⟨request_wellFormed, write_wellFormed, hroot, hnames, kept_of_write, rfl, hexposed,
    (Selector.binds_not_nullable_iff (s := kept) request_wellFormed write_wellFormed hroot hnames
      kept_of_write rfl).2 (Or.inl hexposed)⟩

/-- A method that is kept may have a type parameter bound to a primitive type. -/
theorem not_always_nullable : ¬∀ (request : Request) (selected : List Selected) (s : Selected),
    request.WellFormed → s.candidate.toSignature.WellFormed request.table →
      s ∈ Selector.type.apply request selected →
        ∀ entry ∈ s.typeBindings, entry.2.isNullable = true := by
  intro h
  have hint := h request (Selected.ofCandidates [write]) kept request_wellFormed write_wellFormed
    kept_of_write ("T", .primitive .int) List.mem_cons_self
  cases hint

end Abacus

end BeanMapper
