import BeanMapper.Proofs.Type.Views

/-!
# Where the classes in a supertype come from

A supertype is read from the declaration of a class, and the arguments of that class are put in the
place of its parameters. So when a type is seen as one of its supertypes, the classes in the
arguments are those that the type itself has in its arguments, or a declaration on the way up fixes
them (`Above.mem_mentionedAll`). The same is true of the elements and entries of a container
(`IsPart.mem_imports`).
-/

namespace BeanMapper

/-! ## Classes of a substituted type -/

namespace Ty

variable {c : Ty}

theorem mentionedAll_eq_flatMap (tys : List Ty) : mentionedAll tys = tys.flatMap mentioned := by
  induction tys with
  | nil => rfl
  | cons ty rest ih => rw [mentionedAll, ih, List.flatMap_cons]

theorem mem_mentionedAll {tys : List Ty} : c ∈ mentionedAll tys ↔ ∃ ty ∈ tys, c ∈ ty.mentioned := by
  rw [mentionedAll_eq_flatMap, List.mem_flatMap]

theorem mem_mentioned_declared {name : String} {args : List Ty} :
    c ∈ (declared name args).mentioned ↔ c = named name ∨ ∃ arg ∈ args, c ∈ arg.mentioned := by
  rw [mentioned, List.mem_cons, mem_mentionedAll]
  rfl

theorem mentionedAll_args_subset (ty : Ty) : mentionedAll ty.args ⊆ ty.mentioned := by
  cases ty with
  | declared name args =>
    rw [mentioned]
    exact List.subset_cons_self _ _
  | _ => exact List.nil_subset _

/-- A substituted type is written with the classes that it is written with before, and with those of
the values that its variables have. -/
theorem mem_mentioned_substitute {b : Bindings} {ty : Ty} :
    c ∈ (ty.substitute b).mentioned ↔ c ∈ ty.mentioned ∨
      ∃ x ∈ ty.typeVars, ∃ value, b.value? x = some value ∧ c ∈ value.mentioned := by
  induction ty using Ty.byParts with
  | void => simp [substitute, typeVars]
  | primitive p => simp [substitute, typeVars]
  | declared name args ih =>
    rw [ClassTable.substitute_declared, mem_mentioned_declared, mem_mentioned_declared, or_assoc]
    -- the class itself stays, so the rest comes from the arguments
    refine or_congr_right ⟨?_, ?_⟩
    · rintro ⟨_, harg, hc⟩
      obtain ⟨arg, hmem, rfl⟩ := List.mem_map.1 harg
      rcases (ih arg hmem).1 hc with hc | ⟨x, hx, hvalue⟩
      · exact Or.inl ⟨arg, hmem, hc⟩
      · exact Or.inr ⟨x, mem_typeVars_declared.2 ⟨arg, hmem, hx⟩, hvalue⟩
    · rintro (⟨arg, hmem, hc⟩ | ⟨x, hx, hvalue⟩)
      · exact ⟨_, List.mem_map_of_mem hmem, (ih arg hmem).2 (Or.inl hc)⟩
      · obtain ⟨arg, hmem, hx⟩ := mem_typeVars_declared.1 hx
        exact ⟨_, List.mem_map_of_mem hmem, (ih arg hmem).2 (Or.inr ⟨x, hx, hvalue⟩)⟩
  | array component ih => exact ih
  | typeVar name =>
    rw [substitute, typeVars]
    cases hvalue : b.value? name with
    | none => simp [mentioned, hvalue]
    | some value => simp [mentioned, hvalue]

theorem args_erasure (ty : Ty) : ty.erasure.args = [] := by
  cases ty <;> rfl

end Ty

namespace ClassTable

variable {table : ClassTable} {ty view c : Ty}

/-! ## Classes of an instantiated supertype -/

/-- The classes in the arguments of a supertype are written in the declaration, or are in the
arguments of the class that declares it. -/
theorem mem_mentionedAll_instantiate {decl : ClassDecl} {args : List Ty} {parsed : Ty}
    (h : c ∈ Ty.mentionedAll (instantiate decl args parsed).args) :
    c ∈ Ty.mentionedAll parsed.args ∨ c ∈ Ty.mentionedAll args := by
  have hvalue {x : String} {value : Ty} (hx : (bindingsOf decl args).value? x = some value)
      (hc : c ∈ value.mentioned) : c ∈ Ty.mentionedAll args :=
    Ty.mem_mentionedAll.2
      ⟨value, (List.of_mem_zip (Ty.Bindings.mem_of_value? hx)).2, hc⟩
  unfold instantiate at h
  split at h
  · rw [Ty.args_erasure] at h
    cases h
  · cases parsed with
    | declared name inner =>
      rw [substitute_declared] at h
      obtain ⟨_, harg, hc⟩ := Ty.mem_mentionedAll.1 h
      obtain ⟨arg, hmem, rfl⟩ := List.mem_map.1 harg
      rcases Ty.mem_mentioned_substitute.1 hc with hc | ⟨x, -, value, hx, hc⟩
      · exact Or.inl (Ty.mem_mentionedAll.2 ⟨arg, hmem, hc⟩)
      · exact Or.inr (hvalue hx hc)
    | typeVar name =>
      rw [Ty.substitute] at h
      cases hx : (bindingsOf decl args).value? name with
      | none => rw [hx] at h; cases h
      | some value =>
        rw [hx] at h
        exact Or.inr (hvalue hx (Ty.mentionedAll_args_subset value h))
    | _ => cases h

/-! ## The way up -/

/-- A type is met on the way up from a type, along supertypes. -/
inductive Above (table : ClassTable) (ty : Ty) : Ty → Prop where
  | start : Above table ty ty
  | up {name : String} {args : List Ty} {view : Ty} (h : Above table ty (.declared name args))
    (hview : view ∈ table.supertypes name args) : Above table ty view

theorem above_of_mem_closure (h : view ∈ table.closure ty) : Above table ty view :=
  closureFrom_forall (fun _ _ hbelow _ hview _ => hbelow.up hview)
    (List.forall_mem_singleton.2 fun _ => .start) view h

/-- A class in the arguments of a supertype is fixed by a declaration on the way up: it is written
there as an argument, or within one. -/
def Fixes (table : ClassTable) (ty c : Ty) : Prop :=
  ∃ name args decl, Above table ty (.declared name args) ∧ table.find? name = some decl ∧
    ∃ supertype ∈ table.parsedSupertypes decl, ∃ arg ∈ supertype.args, c ∈ arg.imports

/-- **Where the classes in a supertype come from.** What is in the arguments of a supertype is in
those of the type, or is fixed on the way up. -/
theorem Above.mem_mentionedAll (h : Above table ty view) (hc : c ∈ Ty.mentionedAll view.args) :
    c ∈ Ty.mentionedAll ty.args ∨ table.Fixes ty c := by
  induction h with
  | start => exact Or.inl hc
  | @up name args view hbelow hview ih =>
    cases hd : table.find? name with
    | none => simp [supertypes_of_unknown hd] at hview
    | some decl =>
      rw [supertypes_of_find? hd] at hview
      obtain ⟨parsed, hparsed, rfl⟩ := List.mem_map.1 hview
      rcases mem_mentionedAll_instantiate hc with hc | hc
      · obtain ⟨arg, harg, hc⟩ := Ty.mem_mentionedAll.1 hc
        exact Or.inr ⟨name, args, decl, hbelow, hd, parsed, hparsed, arg, harg,
          mem_distinct.2 hc⟩
      · exact ih hc

/-! ## Elements and entries -/

/-- A type is that of the elements of a container, or of its keys or its values. -/
def IsPart (table : ClassTable) (container part : Ty) : Prop :=
  table.elementType? container = some part ∨
    ∃ key value, table.entryTypes? container = some (key, value) ∧ (part = key ∨ part = value)

/-- An argument of a view of a type is made of the type and of what is fixed on the way up. The root
of all classes, which stands for an argument where there is none, needs no import. -/
theorem mem_imports_of_view {name : String} {index : Nat} (hname : name ≠ Platform.object)
    (hview : table.asSupertype? ty name = some view)
    (hc : c ∈ ((view.args[index]?).getD .object).imports) (hrequires : c.requiresImport = true) :
    c ∈ ty.imports ∨ table.Fixes ty c := by
  unfold asSupertype? at hview
  rw [if_neg fun h => hname h.1] at hview
  have habove := above_of_mem_closure (List.mem_of_find?_eq_some hview)
  cases harg : view.args[index]? with
  | none =>
    rw [harg] at hc
    cases List.mem_singleton.1 hc
    cases hrequires
  | some arg =>
    rw [harg] at hc
    have hmentioned : c ∈ Ty.mentionedAll view.args :=
      Ty.mem_mentionedAll.2 ⟨arg, List.mem_of_getElem? harg, mem_distinct.1 hc⟩
    refine (habove.mem_mentionedAll hmentioned).imp_left fun h => ?_
    exact mem_distinct.2 (Ty.mentionedAll_args_subset ty h)

/-- The classes that the parts of a container are written with are those of the container, or are
fixed by a declaration on the way up. -/
theorem IsPart.mem_imports {container part : Ty} (h : table.IsPart container part)
    (hc : c ∈ part.imports) (hrequires : c.requiresImport = true) :
    c ∈ container.imports ∨ table.Fixes container c := by
  rcases h with helement | ⟨key, value, hentry, hpart⟩
  · unfold elementType? at helement
    split at helement
    · cases helement
      exact Or.inl hc
    · obtain ⟨view, hview, rfl⟩ := Option.map_eq_some_iff.1 helement
      rw [List.headD_eq_head?_getD, List.head?_eq_getElem?] at hc
      exact mem_imports_of_view (by decide) hview hc hrequires
  · obtain ⟨view, hview, heq⟩ := Option.map_eq_some_iff.1 hentry
    cases heq
    rw [List.headD_eq_head?_getD, List.head?_eq_getElem?] at hpart
    rcases hpart with rfl | rfl
    · exact mem_imports_of_view (by decide) hview hc hrequires
    · exact mem_imports_of_view (by decide) hview hc hrequires

end ClassTable

end BeanMapper
