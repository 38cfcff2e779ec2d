import BeanMapper.Proofs.Type.Views

/-!
# Soundness of generic inference

A match binds the variables of a method to types without variables, and never changes a binding
that it has made: `Infers` is what every step preserves. The three kinds of match then say what
they are for: an exact match makes the types equal (`exact_sound`), an accepted value fits the
parameter under all later bindings (`accepts_sound`), a produced value fits the target
(`produces_sound`). `bindParameters_sound` is the run of them over a list of parameters.
-/

namespace BeanMapper

open ClassTable

/-! ## Names that are no class names -/

theorem ClassTable.bracket_not_mem_className {name : String} (h : isClassName name = true) :
    ']' ∉ name.toList := by
  unfold isClassName at h
  split at h
  · cases h
  · rename_i c rest heq
    simp only [Bool.and_eq_true, List.all_eq_true] at h
    rw [heq, List.mem_cons, not_or]
    refine ⟨fun e => ?_, fun hm => ?_⟩
    · subst e; exact absurd h.1.1.1 (by decide)
    · exact absurd (h.1.1.2 _ hm) (by decide)

variable {table : ClassTable} {vars : List String}

/-- A type without variables whose name is that of a class is a class. -/
theorem ClassTable.declared_of_className {ty : Ty} (h : table.wellFormed [] ty = true)
    (hn : isClassName ty.qualifiedName = true) : ty = .declared ty.qualifiedName ty.args := by
  cases ty with
  | void => exact absurd hn (by decide)
  | primitive p => exact absurd hn (by cases p <;> decide)
  | declared name args => rfl
  | array component =>
    exact absurd (by simp [Ty.qualifiedName]) (bracket_not_mem_className hn)
  | typeVar name => simp [wellFormed] at h

theorem ClassTable.bracket_not_mem_name {ty : Ty} (h : table.wellFormed [] ty = true)
    (ha : ty.isArray = false) : ']' ∉ ty.qualifiedName.toList := by
  cases ty with
  | void => decide
  | primitive p => cases p <;> decide
  | declared name args => exact bracket_not_mem_className (wellFormed_declared.1 h).1
  | array component => cases ha
  | typeVar name => simp [wellFormed] at h

/-! ## Closed bindings -/

/-- Every value that the bindings give is a type without variables. -/
def Ty.Bindings.Closed (table : ClassTable) (b : Ty.Bindings) : Prop :=
  ∀ x v, b.value? x = some v → table.wellFormed [] v = true

/-- What a match does to the bindings: it may add values without variables, and keeps those there
are. -/
structure Infers (table : ClassTable) (b b' : Ty.Bindings) : Prop where
  keeps : b.Extends b'
  closed : b'.Closed table

variable {b b' c : Ty.Bindings}

/-- A variable is open, or it has become a type without variables. -/
theorem open_or_closed (hb : b.Closed table) (name : String) :
    b.value? name = none ∧ (Ty.typeVar name).substitute b = .typeVar name ∨
      table.wellFormed [] ((Ty.typeVar name).substitute b) = true := by
  cases hx : b.value? name with
  | none => exact Or.inl ⟨rfl, by rw [Ty.substitute, hx, Option.getD_none]⟩
  | some bound =>
    refine Or.inr ?_
    rw [Ty.substitute, hx, Option.getD_some]
    exact hb name bound hx

theorem Infers.refl (hb : b.Closed table) : Infers table b b := ⟨.refl b, hb⟩

theorem Infers.trans (h : Infers table b b') (h' : Infers table b' c) : Infers table b c :=
  ⟨h.keeps.trans h'.keeps, h'.closed⟩

theorem Infers.insert {x : String} {v : Ty} (hb : b.Closed table) (hx : b.value? x = none)
    (hv : table.wellFormed [] v = true) : Infers table b (b.insert x v) := by
  refine ⟨Ty.Bindings.extends_insert v hx, fun y w hw => ?_⟩
  rw [Ty.Bindings.value?_insert] at hw
  split at hw
  · cases hw; exact hv
  · exact hb y w hw

/-- Bindings that are made later can be put in at once. -/
theorem substitute_extends (ty : Ty) (hb : b.Closed table) (he : b.Extends c) :
    (ty.substitute b).substitute c = ty.substitute c := by
  refine substitute_substitute fun x _ => ?_
  cases hx : b.value? x with
  | none => simp [Ty.substitute, hx]
  | some v =>
    simp only [Ty.substitute, hx, Option.getD_some, he x v hx]
    exact substitute_closed c (hb x v hx)

theorem wellFormed_substitute_closed {ty : Ty} (h : table.wellFormed vars ty = true)
    (hb : b.Closed table) : table.wellFormed vars (ty.substitute b) = true := by
  refine wellFormed_substitute h fun x hx => ?_
  cases hv : b.value? x with
  | none => simpa [Ty.substitute, hv, wellFormed] using hx
  | some v =>
    simp only [Ty.substitute, hv, Option.getD_some]
    exact wellFormed_mono (by simp) (hb x v hv)

/-- Once a type has become one without variables, later bindings do not change it. -/
theorem substitute_settled {ty ground : Ty} (hb : b.Closed table)
    (hg : table.wellFormed [] ground = true) (he : ty.substitute b = ground) (hc : b.Extends c) :
    ty.substitute c = ground := by
  rw [← substitute_extends ty hb hc, he]
  exact substitute_closed c hg

theorem map_substitute_settled {tys grounds : List Ty} (hb : b.Closed table)
    (hg : ∀ ground ∈ grounds, table.wellFormed [] ground = true)
    (he : tys.map (Ty.substitute b) = grounds) (hc : b.Extends c) :
    tys.map (Ty.substitute c) = grounds := by
  subst he
  refine List.map_congr_left fun ty hm => ?_
  exact substitute_settled hb (hg _ (List.mem_map_of_mem hm)) rfl hc

namespace Matching

/-! ## Exact matches -/

/-- What an exact match of a type achieves. -/
def ExactSound (table : ClassTable) (vars : List String) (formal : Ty) : Prop :=
  ∀ actual b b', table.wellFormed [] actual = true → b.Closed table →
    exact vars b formal actual = some b' →
      Infers table b b' ∧ formal.substitute b' = actual

theorem exactAll_sound_of {formals actuals : List Ty}
    (hf : ∀ f ∈ formals, table.wellFormed vars f = true ∧ ExactSound table vars f)
    (ha : ∀ a ∈ actuals, table.wellFormed [] a = true) (hb : b.Closed table)
    (h : exactAll vars b formals actuals = some b') :
    Infers table b b' ∧ formals.map (Ty.substitute b') = actuals := by
  induction formals generalizing actuals b with
  | nil =>
    cases actuals with
    | nil => cases h; exact ⟨.refl hb, rfl⟩
    | cons a as => cases h
  | cons f fs ih =>
    cases actuals with
    | nil => cases h
    | cons a as =>
      simp only [exactAll, Option.bind_eq_bind, Option.bind_eq_some_iff] at h
      obtain ⟨b₁, h₁, h₂⟩ := h
      obtain ⟨hi₁, he₁⟩ := (hf f (by simp)).2 a b b₁ (ha a (by simp)) hb h₁
      obtain ⟨hi₂, he₂⟩ := ih (fun g hg => hf g (by simp [hg])) (fun t ht => ha t (by simp [ht]))
        hi₁.closed h₂
      refine ⟨hi₁.trans hi₂, ?_⟩
      rw [List.map_cons, he₂,
        substitute_settled hi₁.closed (ha a (by simp)) he₁ hi₂.keeps]

/-- Without a variable an exact match is the same type, and binds nothing. -/
theorem same_of_exact {formal actual : Ty} (hf : table.wellFormed vars formal = true)
    (hm : mentions vars formal = false) (h : exact vars b formal actual = some b') :
    formal = actual ∧ b' = b := by
  cases formal with
  | typeVar name =>
    simp only [mentions] at hm
    simp [wellFormed, hm] at hf
  | declared name args =>
    simp only [mentions] at hm
    simp only [exact, hm, Bool.false_eq_true, if_false] at h
    split at h <;> cases h
    exact ⟨‹_›, rfl⟩
  | array component =>
    simp only [mentions] at hm
    simp only [exact, hm, Bool.false_eq_true, if_false] at h
    split at h <;> cases h
    exact ⟨‹_›, rfl⟩
  | _ =>
    simp only [exact] at h
    split at h <;> cases h
    exact ⟨‹_›, rfl⟩

/-- No other type is named like an array. -/
theorem exists_array_of_name {formal actual : Ty} (ha : table.wellFormed [] actual = true)
    (hn : formal.qualifiedName ++ "[]" = actual.qualifiedName) :
    ∃ component, actual = .array component := by
  cases harr : actual.isArray with
  | true =>
    cases actual with
    | array component => exact ⟨component, rfl⟩
    | _ => cases harr
  | false =>
    refine absurd ?_ (bracket_not_mem_name ha harr)
    rw [← hn]; simp

/-- An array with a variable is matched with an array, component by component. -/
theorem exact_array {component actual : Ty} (hm : mentions vars component = true)
    (ha : table.wellFormed [] actual = true)
    (h : exact vars b (.array component) actual = some b') :
    ∃ component', actual = .array component' ∧ exact vars b component component' = some b' := by
  simp only [exact, hm, if_true] at h
  split at h
  · exact ⟨_, rfl, h⟩
  · rename_i hno
    split at h <;> cases h
    rename_i hn
    simp only [Bool.and_eq_true, decide_eq_true_eq] at hn
    obtain ⟨component', rfl⟩ := exists_array_of_name ha hn.1
    exact absurd rfl (hno component')

/-- A class with a variable is matched with the same class, argument by argument. -/
theorem exact_declared {name : String} {args : List Ty} {actual : Ty}
    (hm : mentionsAny vars args = true) (hn : isClassName name = true)
    (ha : table.wellFormed [] actual = true)
    (h : exact vars b (.declared name args) actual = some b') :
    ∃ args', actual = .declared name args' ∧ exactAll vars b args args' = some b' := by
  simp only [exact, hm, if_true] at h
  split at h
  · rename_i heq
    refine ⟨actual.args, ?_, h⟩
    rw [heq]
    exact declared_of_className ha (heq ▸ hn)
  · cases h

/-- Without a variable an exact match is sound. -/
theorem exactSound_of_not_mentions {formal : Ty} (hf : table.wellFormed vars formal = true)
    (hm : mentions vars formal = false) : ExactSound table vars formal := by
  intro actual b b' _ hb h
  obtain ⟨rfl, rfl⟩ := same_of_exact hf hm h
  exact ⟨.refl hb, substitute_closed b' (wellFormed_of_not_mentions hf hm)⟩

/-- An exact match finds values for which the types are equal. -/
theorem exact_sound {formal : Ty} (hf : table.wellFormed vars formal = true) :
    ExactSound table vars formal := by
  induction formal using Ty.byParts with
  | void => exact exactSound_of_not_mentions hf rfl
  | primitive p => exact exactSound_of_not_mentions hf rfl
  | typeVar name =>
    intro actual b b' ha hb h
    have hx : name ∈ vars := by simpa [wellFormed] using hf
    simp only [exact, hx, if_true] at h
    -- a variable is bound here, or the value it has must be the type itself
    cases hv : b.value? name with
    | none =>
      rw [hv] at h
      cases h
      exact ⟨.insert hb hv ha, by simp [Ty.substitute, Ty.Bindings.value?_insert]⟩
    | some bound =>
      simp only [hv] at h
      split at h <;> cases h
      rename_i he
      exact ⟨.refl hb, by simp [Ty.substitute, hv, he]⟩
  | array component ih =>
    cases hm : mentions vars component with
    | false => exact exactSound_of_not_mentions hf hm
    | true =>
      intro actual b b' ha hb h
      obtain ⟨component', rfl, hcomponent⟩ := exact_array hm ha h
      obtain ⟨hi, he⟩ := ih hf component' b b' ha hb hcomponent
      exact ⟨hi, congrArg Ty.array he⟩
  | declared name args ih =>
    cases hm : mentionsAny vars args with
    | false => exact exactSound_of_not_mentions hf hm
    | true =>
      intro actual b b' ha hb h
      have hw := wellFormed_declared.1 hf
      obtain ⟨args', rfl, hargs⟩ := exact_declared hm hw.1 ha h
      obtain ⟨hi, he⟩ := exactAll_sound_of (fun f hm => ⟨hw.2.2 f hm, ih f hm (hw.2.2 f hm)⟩)
        (wellFormed_declared.1 ha).2.2 hb hargs
      exact ⟨hi, by rw [substitute_declared, he]⟩

theorem exactAll_sound {formals actuals : List Ty}
    (hf : ∀ f ∈ formals, table.wellFormed vars f = true)
    (ha : ∀ a ∈ actuals, table.wellFormed [] a = true) (hb : b.Closed table)
    (h : exactAll vars b formals actuals = some b') :
    Infers table b b' ∧ formals.map (Ty.substitute b') = actuals :=
  exactAll_sound_of (fun f hm => ⟨hf f hm, exact_sound (hf f hm)⟩) ha hb h

/-! ## Accepted and produced values -/

/-- Only an open variable is a variable after the bindings made so far. -/
theorem unbound_of_isVar {formal : Ty} (hb : b.Closed table)
    (h : isVar vars (formal.substitute b) = true) :
    ∃ x, formal = .typeVar x ∧ formal.substitute b = .typeVar x ∧ b.value? x = none := by
  cases formal with
  | typeVar x =>
    rcases open_or_closed hb x with ⟨hnone, hopen⟩ | hclosed
    · exact ⟨x, rfl, hopen, hnone⟩
    · generalize (Ty.typeVar x).substitute b = g at h hclosed
      cases g with
      | typeVar y => simp [wellFormed] at hclosed
      | _ => cases h
  | _ => cases h

/-- A type that mentions variables without being one, seen as a class, is a class. -/
theorem declared_of_view {formal : Ty} (hf : table.wellFormed vars formal = true)
    (hv : isVar vars formal = false) (hm : mentions vars formal = true)
    (hn : isClassName formal.qualifiedName = true) :
    formal = .declared formal.qualifiedName formal.args := by
  cases formal with
  | declared name args => rfl
  | array component =>
    exact absurd (by simp [Ty.qualifiedName]) (bracket_not_mem_className hn)
  | typeVar name =>
    simp only [mentions, isVar] at hm hv
    rw [hm] at hv; cases hv
  | _ => cases hm

/-- All that acceptance can do with a parameter type, the bindings made so far being put in: bind a
variable, compare types without variables, match components, or match the arguments of a view. -/
theorem accepts_cases {formal actual : Ty} (h : accepts table vars b formal actual = some b') :
    (isVar vars (formal.substitute b) = true ∧ actual.isNullable = true ∧
        b' = b.insert (formal.substitute b).qualifiedName actual) ∨
      (mentions vars (formal.substitute b) = false ∧ b' = b ∧
        table.isAssignable actual (formal.substitute b) = true) ∨
      (∃ component component', formal.substitute b = .array component ∧
        actual = .array component' ∧ exact vars b component component' = some b') ∨
      (isVar vars (formal.substitute b) = false ∧ mentions vars (formal.substitute b) = true ∧
        ∃ view, table.asSupertype? actual (formal.substitute b).qualifiedName = some view ∧
          ((view.args = [] ∧ b' = b) ∨
            exactAll vars b (formal.substitute b).args view.args = some b')) := by
  unfold accepts at h
  -- the parameter type counts with the bindings put in
  generalize formal.substitute b = g at h ⊢
  dsimp only at h
  split at h
  · rename_i hv
    split at h <;> cases h
    rename_i hnullable
    rw [Bool.not_eq_true, Bool.or_eq_false_iff] at hnullable
    exact Or.inl ⟨hv, by simp [Ty.isNullable, hnullable], rfl⟩
  · rename_i hv
    split at h
    · rename_i hm
      split at h <;> cases h
      exact Or.inr (Or.inl ⟨by simpa using hm, rfl, ‹_›⟩)
    · rename_i hm
      split at h
      · exact Or.inr (Or.inr (Or.inl ⟨_, _, rfl, rfl, h⟩))
      · simp only [Option.bind_eq_bind, Option.bind_eq_some_iff] at h
        obtain ⟨view, hview, h⟩ := h
        refine Or.inr (Or.inr (Or.inr ⟨by simpa using hv, by simpa using hm, view, hview, ?_⟩))
        split at h
        · rename_i hraw
          cases h
          exact Or.inl ⟨List.isEmpty_iff.1 hraw, rfl⟩
        · exact Or.inr h

/-- A value seen as the class of a parameter fits it, if their arguments match or it is raw. -/
theorem fits_of_view (hT : table.SupertypesWellFormed) {formal actual view : Ty}
    (hf : table.wellFormed vars formal = true) (ha : table.wellFormed [] actual = true)
    (hb : b.Closed table) (hv : isVar vars formal = false) (hm : mentions vars formal = true)
    (hview : table.asSupertype? actual formal.qualifiedName = some view)
    (hargs : (view.args = [] ∧ b' = b) ∨ exactAll vars b formal.args view.args = some b') :
    Infers table b b' ∧
      ∀ c, b'.Extends c → table.isAssignable actual (formal.substitute c) = true := by
  obtain ⟨heq, hw⟩ := wellFormed_asSupertype? hT ha hview
  rw [heq, wellFormed_declared] at hw
  have hd := declared_of_view hf hv hm hw.1
  generalize formal.qualifiedName = name at hd hview heq hw
  generalize formal.args = args at hd hargs
  subst hd
  rcases hargs with ⟨hraw, rfl⟩ | hargs
  · refine ⟨.refl hb, fun c hc => ?_⟩
    rw [substitute_declared]
    exact isAssignable_of_view hview (Or.inr (Or.inl hraw))
  · have hwargs := (wellFormed_declared.1 hf).2.2
    obtain ⟨hi, he⟩ := exactAll_sound hwargs hw.2.2 hb hargs
    refine ⟨hi, fun c hc => ?_⟩
    rw [substitute_declared, map_substitute_settled hi.closed hw.2.2 he hc]
    exact isAssignable_of_view hview (Or.inr (Or.inr rfl))

/-- A value that is accepted fits the parameter, whatever is inferred later. -/
theorem accepts_sound (hT : table.SupertypesWellFormed) {formal actual : Ty}
    (hf : table.wellFormed vars formal = true) (ha : table.wellFormed [] actual = true)
    (hb : b.Closed table) (h : accepts table vars b formal actual = some b') :
    Infers table b b' ∧
      ∀ c, b'.Extends c → table.isAssignable actual (formal.substitute c) = true := by
  have hg := wellFormed_substitute_closed hf hb
  -- later bindings extend those made so far, so they can be put in on top of them
  have hlater : ∀ c, b.Extends c → formal.substitute c = (formal.substitute b).substitute c :=
    fun c hc => (substitute_extends formal hb hc).symm
  have hvar : isVar vars (formal.substitute b) = true → _ := unbound_of_isVar hb
  have hcases := accepts_cases h
  revert hg hlater hvar hcases
  generalize formal.substitute b = g
  intro hg hlater hvar hcases
  rcases hcases with ⟨hv, -, rfl⟩ | ⟨hm, rfl, hfits⟩ | ⟨component, component', rfl, rfl, he⟩ |
    ⟨hv, hm, view, hview, hargs⟩
  · obtain ⟨x, -, rfl, hx⟩ := hvar hv
    have hi : Infers table b (b.insert x actual) := .insert hb hx ha
    refine ⟨hi, fun c hc => ?_⟩
    have hcx := hc x actual (by simp [Ty.Bindings.value?_insert, Ty.qualifiedName])
    rw [hlater c (hi.keeps.trans hc)]
    simp only [Ty.substitute, hcx, Option.getD_some]
    exact isAssignable_refl table actual
  · have hc := wellFormed_of_not_mentions hg hm
    refine ⟨.refl hb, fun c he => ?_⟩
    rw [hlater c he, substitute_closed c hc]
    exact hfits
  · have hg' : table.wellFormed vars component = true := hg
    have ha' : table.wellFormed [] component' = true := ha
    -- components are matched exactly, so nothing that comes later changes them
    obtain ⟨hi, he⟩ := exact_sound hg' component' b b' ha' hb he
    refine ⟨hi, fun c hc => ?_⟩
    rw [hlater c (hi.keeps.trans hc), Ty.substitute, substitute_settled hi.closed ha' he hc]
    exact isAssignable_refl table _
  · obtain ⟨hi, hfit⟩ := fits_of_view hT hg ha hb hv hm hview hargs
    refine ⟨hi, fun c hc => ?_⟩
    rw [hlater c (hi.keeps.trans hc)]
    exact hfit c hc

/-- All that a match of a result type can do, as for acceptance; here it is the produced type that
is seen as the class of the target. -/
theorem produces_cases {produced target : Ty}
    (h : produces table vars b produced target = some b') :
    (isVar vars (produced.substitute b) = true ∧ target.isPrimitive = false ∧
        b' = b.insert (produced.substitute b).qualifiedName target) ∨
      (mentions vars (produced.substitute b) = false ∧ b' = b ∧
        table.isAssignable (produced.substitute b) target = true) ∨
      (∃ component component', produced.substitute b = .array component ∧
        target = .array component' ∧ exact vars b component component' = some b') ∨
      (isVar vars (produced.substitute b) = false ∧ mentions vars (produced.substitute b) = true ∧
        ∃ view, table.asSupertype? (produced.substitute b) target.qualifiedName = some view ∧
          ((target.args = [] ∧ b' = b) ∨ exactAll vars b view.args target.args = some b')) := by
  unfold produces at h
  generalize produced.substitute b = g at h ⊢
  dsimp only at h
  split at h
  · rename_i hv
    split at h <;> cases h
    exact Or.inl ⟨hv, eq_false_of_ne_true ‹_›, rfl⟩
  · rename_i hv
    split at h
    · rename_i hm
      split at h <;> cases h
      exact Or.inr (Or.inl ⟨by simpa using hm, rfl, ‹_›⟩)
    · rename_i hm
      split at h
      · exact Or.inr (Or.inr (Or.inl ⟨_, _, rfl, rfl, h⟩))
      · simp only [Option.bind_eq_bind, Option.bind_eq_some_iff] at h
        obtain ⟨view, hview, h⟩ := h
        refine Or.inr (Or.inr (Or.inr ⟨by simpa using hv, by simpa using hm, view, hview, ?_⟩))
        split at h
        · rename_i hraw
          cases h
          exact Or.inl ⟨List.isEmpty_iff.1 hraw, rfl⟩
        · exact Or.inr h

/-- A result seen as the class of the target fits it, if their arguments match or it is raw. -/
theorem view_fits (hT : table.SupertypesWellFormed) {produced target view : Ty}
    (hp : table.wellFormed vars produced = true) (ht : table.wellFormed [] target = true)
    (hb : b.Closed table) (hv : isVar vars produced = false)
    (hview : table.asSupertype? produced target.qualifiedName = some view)
    (hargs : (target.args = [] ∧ b' = b) ∨ exactAll vars b view.args target.args = some b') :
    Infers table b b' ∧ table.isAssignable (produced.substitute b') target = true := by
  obtain ⟨heq, hw⟩ := wellFormed_asSupertype? hT hp hview
  rw [heq, wellFormed_declared] at hw
  have hd := declared_of_className ht hw.1
  have hns : produced.isTypeVar = false := by
    cases produced with
    | typeVar x =>
      simp only [wellFormed, isVar] at hp hv
      rw [hp] at hv; cases hv
    | _ => rfl
  have hinst : table.asSupertype? (produced.substitute b') target.qualifiedName =
      some (view.substitute b') := by
    rw [asSupertype?_substitute hT.uniform b' _ (isSupplied_of_wellFormed hp) hns, hview]; rfl
  generalize target.qualifiedName = name at hd hinst heq hw
  generalize target.args = args at hd hargs
  subst hd
  rcases hargs with ⟨hraw, rfl⟩ | hargs
  · exact ⟨.refl hb, isAssignable_of_view hinst (Or.inl hraw)⟩
  · obtain ⟨hi, he⟩ := exactAll_sound hw.2.2 (wellFormed_declared.1 ht).2.2 hb hargs
    refine ⟨hi, isAssignable_of_view hinst (Or.inr (Or.inr ?_))⟩
    rw [heq, substitute_declared]
    exact he

/-- A value that is produced fits the target. -/
theorem produces_sound (hT : table.SupertypesWellFormed) {produced target : Ty}
    (hp : table.wellFormed vars produced = true) (ht : table.wellFormed [] target = true)
    (hb : b.Closed table) (h : produces table vars b produced target = some b') :
    Infers table b b' ∧ table.isAssignable (produced.substitute b') target = true := by
  have hg := wellFormed_substitute_closed hp hb
  -- as for acceptance: the bindings go on from those made so far
  have hlater : ∀ c, b.Extends c → produced.substitute c = (produced.substitute b).substitute c :=
    fun c hc => (substitute_extends produced hb hc).symm
  have hvar : isVar vars (produced.substitute b) = true → _ := unbound_of_isVar hb
  have hcases := produces_cases h
  revert hg hlater hvar hcases
  generalize produced.substitute b = g
  intro hg hlater hvar hcases
  rcases hcases with ⟨hv, -, rfl⟩ | ⟨hm, rfl, hfits⟩ | ⟨component, component', rfl, rfl, he⟩ |
    ⟨hv, -, view, hview, hargs⟩
  · obtain ⟨x, -, rfl, hx⟩ := hvar hv
    have hi : Infers table b (b.insert x target) := .insert hb hx ht
    refine ⟨hi, ?_⟩
    change table.isAssignable (produced.substitute (b.insert x target)) target = true
    rw [hlater _ hi.keeps]
    simp only [Ty.substitute, Ty.Bindings.value?_insert, if_true, Option.getD_some]
    exact isAssignable_refl table target
  · have hc := wellFormed_of_not_mentions hg hm
    refine ⟨.refl hb, ?_⟩
    rw [hlater b' (.refl b'), substitute_closed b' hc]
    exact hfits
  · have hg' : table.wellFormed vars component = true := hg
    obtain ⟨hi, he⟩ := exact_sound hg' component' b b' ht hb he
    refine ⟨hi, ?_⟩
    rw [hlater b' hi.keeps, Ty.substitute, he]
    exact isAssignable_refl table _
  · obtain ⟨hi, hfit⟩ := view_fits hT hg ht hb hv hview hargs
    refine ⟨hi, ?_⟩
    rw [hlater b' hi.keeps]
    exact hfit

/-! ## Binding a whole method -/

theorem accepts_of_findContext {formal : Ty} {name : String} {context : List Parameter}
    (h : findContext table vars b formal context = some (name, b')) :
    ∃ p ∈ context, p.name = name ∧ accepts table vars b formal p.ty = some b' := by
  induction context with
  | nil => cases h
  | cons p rest ih =>
    rw [findContext] at h
    split at h
    · rename_i b₁ haccepts
      cases h
      exact ⟨p, List.mem_cons_self, rfl, haccepts⟩
    · obtain ⟨q, hq, hfound⟩ := ih h
      exact ⟨q, List.mem_cons_of_mem p hq, hfound⟩

end Matching

def BoundValue.role : BoundValue → ParameterRole
  | sourceValue => .source
  | mappingTarget => .mappingTarget
  | targetType _ => .targetType
  | context _ => .context

/-- Whether what a parameter receives fits its type, once the variables have these values. -/
def BoundValue.Fits (request : Request) (c : Ty.Bindings) (ty : Ty) : BoundValue → Prop
  | sourceValue => ∃ source, request.source = some source ∧
      request.table.isAssignable source (ty.substitute c) = true
  | mappingTarget => request.table.isAssignable request.target (ty.substitute c) = true
  | targetType target => target = request.target
  | context argument => ∃ available ∈ request.context, available.name = argument ∧
      request.table.isAssignable available.ty (ty.substitute c) = true

/-- The binding of a parameter: it bears its name, type and role, and what it receives fits. -/
structure Binding.Binds (request : Request) (c : Ty.Bindings) (p : Parameter)
    (binding : Binding) : Prop where
  name_eq : binding.parameter = p.name
  ty_eq : binding.ty = p.ty
  role_eq : binding.value.role = p.role
  fits : binding.value.Fits request c p.ty

/-- Requests about well-formed types that mention no variables. -/
structure Request.WellFormed (request : Request) : Prop where
  supertypes : request.table.SupertypesWellFormed
  source : ∀ source, request.source = some source → request.table.wellFormed [] source = true
  target : request.table.wellFormed [] request.target = true
  context : ∀ p ∈ request.context, request.table.wellFormed [] p.ty = true

/-- Signatures about well-formed types whose only variables are the type parameters. -/
structure Signature.WellFormed (table : ClassTable) (signature : Signature) : Prop where
  parameters : ∀ p ∈ signature.parameters,
    table.wellFormed signature.typeParameters p.ty = true
  result : table.wellFormed signature.typeParameters signature.returnType = true

namespace Matching

variable {request : Request}

/-- All that binding a parameter can do, role by role: the source, the target and a context
parameter at hand are accepted, and the argument of a class literal is matched with the target
exactly, if there is one. -/
inductive ParameterBound (request : Request) (vars : List String) (b b' : Ty.Bindings)
    (parameter : Parameter) : BoundValue → Prop where
  | source {source : Ty} (hrole : parameter.role = .source)
    (hsource : request.source = some source)
    (haccepts : accepts request.table vars b parameter.ty source = some b') :
    ParameterBound request vars b b' parameter .sourceValue
  | mappingTarget (hrole : parameter.role = .mappingTarget)
    (haccepts : accepts request.table vars b parameter.ty request.target = some b') :
    ParameterBound request vars b b' parameter .mappingTarget
  | anyClass (hrole : parameter.role = .targetType) (hraw : parameter.ty.args = [])
    (hkept : b' = b) : ParameterBound request vars b b' parameter (.targetType request.target)
  | classOf {arg : Ty} {rest : List Ty} (hrole : parameter.role = .targetType)
    (hargs : parameter.ty.args = arg :: rest)
    (hexact : exact vars b arg request.target = some b') :
    ParameterBound request vars b b' parameter (.targetType request.target)
  | context {available : Parameter} (hrole : parameter.role = .context)
    (hm : available ∈ request.context)
    (haccepts : accepts request.table vars b parameter.ty available.ty = some b') :
    ParameterBound request vars b b' parameter (.context available.name)

theorem parameterBound_of_bindParameter {parameter : Parameter} {value : BoundValue}
    (h : bindParameter request vars b parameter = some (value, b')) :
    ParameterBound request vars b b' parameter value := by
  unfold bindParameter at h
  -- each role has its own rule, and for a class literal it depends on whether it has an argument
  cases hrole : parameter.role with
  | source =>
    simp only [hrole, Option.bind_eq_bind, Option.bind_eq_some_iff, Option.some.injEq,
      Prod.mk.injEq] at h
    obtain ⟨source, hsource, b₁, haccepts, rfl, rfl⟩ := h
    exact .source hrole hsource haccepts
  | mappingTarget =>
    simp only [hrole, Option.bind_eq_bind, Option.bind_eq_some_iff, Option.some.injEq,
      Prod.mk.injEq] at h
    obtain ⟨b₁, haccepts, rfl, rfl⟩ := h
    exact .mappingTarget hrole haccepts
  | targetType =>
    simp only [hrole] at h
    split at h
    · rename_i hraw
      cases h
      exact .anyClass hrole hraw rfl
    · rename_i arg rest hargs
      simp only [Option.bind_eq_bind, Option.bind_eq_some_iff, Option.some.injEq,
        Prod.mk.injEq] at h
      obtain ⟨b₁, hexact, rfl, rfl⟩ := h
      exact .classOf hrole hargs hexact
  | context =>
    simp only [hrole, Option.bind_eq_bind, Option.bind_eq_some_iff, Option.some.injEq,
      Prod.mk.injEq] at h
    obtain ⟨⟨argument, b₁⟩, hfound, rfl, rfl⟩ := h
    obtain ⟨available, hm, rfl, haccepts⟩ := accepts_of_findContext hfound
    exact .context hrole hm haccepts

theorem ParameterBound.role_eq {parameter : Parameter} {value : BoundValue}
    (h : ParameterBound request vars b b' parameter value) : value.role = parameter.role := by
  cases h with
  | source hrole _ _ => exact hrole.symm
  | mappingTarget hrole _ => exact hrole.symm
  | anyClass hrole _ _ => exact hrole.symm
  | classOf hrole _ _ => exact hrole.symm
  | context hrole _ _ => exact hrole.symm

theorem ParameterBound.sound (hr : request.WellFormed) {parameter : Parameter} {value : BoundValue}
    (hp : request.table.wellFormed vars parameter.ty = true) (hb : b.Closed request.table)
    (h : ParameterBound request vars b b' parameter value) :
    Infers request.table b b' ∧ ∀ c, b'.Extends c → value.Fits request c parameter.ty := by
  cases h with
  | @source source _ hsource haccepts =>
    obtain ⟨hi, hfit⟩ := accepts_sound hr.supertypes hp (hr.source source hsource) hb haccepts
    exact ⟨hi, fun c hc => ⟨source, hsource, hfit c hc⟩⟩
  | mappingTarget _ haccepts => exact accepts_sound hr.supertypes hp hr.target hb haccepts
  | anyClass _ _ hkept =>
    subst hkept
    exact ⟨.refl hb, fun _ _ => rfl⟩
  | classOf _ hargs hexact =>
    have harg := wellFormed_args hp _ (hargs ▸ List.mem_cons_self)
    exact ⟨(exact_sound harg _ b b' hr.target hb hexact).1, fun _ _ => rfl⟩
  | @context available _ hm haccepts =>
    obtain ⟨hi, hfit⟩ := accepts_sound hr.supertypes hp (hr.context available hm) hb haccepts
    exact ⟨hi, fun c hc => ⟨available, hm, rfl, hfit c hc⟩⟩

/-- Parameters are bound one after the other. -/
theorem bindParameters_cons {parameter : Parameter} {parameters : List Parameter}
    {bound : List Binding}
    (h : bindParameters request vars b (parameter :: parameters) = some (bound, b')) :
    ∃ value between others, ParameterBound request vars b between parameter value ∧
      bindParameters request vars between parameters = some (others, b') ∧
      bound = ⟨parameter.name, parameter.ty, value⟩ :: others := by
  simp only [bindParameters, Option.bind_eq_bind, Option.bind_eq_some_iff, Option.some.injEq,
    Prod.mk.injEq] at h
  obtain ⟨⟨value, between⟩, hfirst, ⟨others, _⟩, hothers, rfl, rfl⟩ := h
  exact ⟨value, between, others, parameterBound_of_bindParameter hfirst, hothers, rfl⟩

theorem bindParameters_sound (hr : request.WellFormed) {parameters : List Parameter}
    {bound : List Binding} (hp : ∀ p ∈ parameters, request.table.wellFormed vars p.ty = true)
    (hb : b.Closed request.table)
    (h : bindParameters request vars b parameters = some (bound, b')) :
    Infers request.table b b' ∧
      ∀ c, b'.Extends c → List.Forall₂ (Binding.Binds request c) parameters bound := by
  induction parameters generalizing b bound with
  | nil => cases h; exact ⟨.refl hb, fun _ _ => .nil⟩
  | cons p rest ih =>
    obtain ⟨value, b₁, bound', h₁, h₂, rfl⟩ := bindParameters_cons h
    obtain ⟨hi₁, hfit⟩ := h₁.sound hr (hp p (by simp)) hb
    obtain ⟨hi₂, hrest⟩ := ih (fun q hq => hp q (by simp [hq])) hi₁.closed h₂
    refine ⟨hi₁.trans hi₂, fun c hc => .cons ⟨rfl, rfl, h₁.role_eq, ?_⟩ (hrest c hc)⟩
    exact hfit c (hi₂.keeps.trans hc)

theorem closed_nil (table : ClassTable) : Ty.Bindings.Closed table [] := by
  intro x v h; cases h

/-- All that binding the result of a method can do, family by family: the result of a factory and of
a mapping method that returns something is matched against the target, any other is left alone. -/
inductive ResultBound (request : Request) (candidate : Candidate) (b b' : Ty.Bindings) : Prop where
  | factory (hfamily : candidate.flags.family = .objectFactory)
    (hsources : candidate.sources.length ≤ 1) (hvoid : candidate.returnType.isVoid = false)
    (hproduces : produces request.table candidate.typeParameters b candidate.returnType
      request.target = some b')
  | callback {timing : Timing} (hfamily : candidate.flags.family = .callback timing)
    (hsources : candidate.sources.length ≤ 1) (hkept : b' = b)
  | presenceCheck (hfamily : candidate.flags.family = .presenceCheck)
    (hsources : candidate.sources.length = 1) (hboolean : candidate.returnType.isBoolean = true)
    (hkept : b' = b)
  | update (hfamily : candidate.flags.family = .mapping) (hsources : candidate.sources.length = 1)
    (hvoid : candidate.returnType.isVoid = true) (hupdate : candidate.isUpdate = true)
    (hkept : b' = b)
  | mapping (hfamily : candidate.flags.family = .mapping) (hsources : candidate.sources.length = 1)
    (hvoid : candidate.returnType.isVoid = false)
    (hproduces : produces request.table candidate.typeParameters b candidate.returnType
      request.target = some b')

theorem resultBound_of_bindResult {candidate : Candidate}
    (h : bindResult request candidate b = some b') : ResultBound request candidate b b' := by
  unfold bindResult at h
  dsimp only at h
  split at h
  · rename_i hfactory
    have hfamily : candidate.flags.family = .objectFactory := by simp [Flags.family, hfactory]
    split at h
    · rename_i hfits
      simp only [Bool.and_eq_true, decide_eq_true_eq, Bool.not_eq_true'] at hfits
      exact .factory hfamily hfits.1 hfits.2 h
    · cases h
  · rename_i hfactory
    split at h
    · rename_i hcallback
      have hfamily : candidate.flags.family = .callback .beforeMapping := by
        -- marks do not tell the timing, so any callback stands for all
        simp [Flags.family, hfactory, hcallback]
      split at h <;> cases h
      exact .callback hfamily ‹_› rfl
    · rename_i hcallback
      split at h
      · rename_i hpresence
        have hfamily : candidate.flags.family = .presenceCheck := by
          simp [Flags.family, hfactory, hcallback, hpresence]
        split at h <;> cases h
        rename_i hfits
        simp only [Bool.and_eq_true, decide_eq_true_eq] at hfits
        exact .presenceCheck hfamily hfits.1 hfits.2 rfl
      · rename_i hpresence
        have hfamily : candidate.flags.family = .mapping := by
          simp [Flags.family, hfactory, hcallback, hpresence]
        split at h
        · split at h
          · split at h <;> cases h
            exact .update hfamily ‹_› ‹_› ‹_› rfl
          · exact .mapping hfamily ‹_› (eq_false_of_ne_true ‹_›) h
        · cases h

/-- A bound method is a run over its parameters, followed by its result. -/
theorem bind?_eq_some {candidate : Candidate} {bound : List Binding}
    (h : bind? request candidate = some (bound, b')) :
    ∃ b, bindParameters request candidate.typeParameters [] candidate.parameters = some (bound, b) ∧
      ResultBound request candidate b b' := by
  simp only [bind?, Option.bind_eq_bind, Option.bind_eq_some_iff, Option.some.injEq,
    Prod.mk.injEq] at h
  obtain ⟨⟨bound, b⟩, hparameters, b', hresult, rfl, rfl⟩ := h
  exact ⟨b, hparameters, resultBound_of_bindResult hresult⟩

end Matching

/-- What a method returns is wanted: it is a factory, or a mapping method that returns something. -/
def Candidate.GivesResult (candidate : Candidate) : Prop :=
  candidate.flags.family = .objectFactory ∨
    candidate.flags.family = .mapping ∧ candidate.returnType.isVoid = false

namespace Matching

variable {request : Request}

/-- The result of a method is matched against the target if it is wanted, and left alone if not. -/
theorem ResultBound.matched_or_kept {candidate : Candidate}
    (h : ResultBound request candidate b b') :
    candidate.GivesResult ∧ produces request.table candidate.typeParameters b candidate.returnType
        request.target = some b' ∨
      ¬candidate.GivesResult ∧ b' = b := by
  cases h with
  | factory hfamily _ _ hproduces => exact Or.inl ⟨Or.inl hfamily, hproduces⟩
  | mapping hfamily _ hvoid hproduces => exact Or.inl ⟨Or.inr ⟨hfamily, hvoid⟩, hproduces⟩
  | callback hfamily _ hkept => exact Or.inr ⟨by simp [Candidate.GivesResult, hfamily], hkept⟩
  | presenceCheck hfamily _ _ hkept =>
    exact Or.inr ⟨by simp [Candidate.GivesResult, hfamily], hkept⟩
  | update hfamily _ hvoid _ hkept =>
    exact Or.inr ⟨by simp [Candidate.GivesResult, hfamily, hvoid], hkept⟩

theorem ResultBound.sound (hr : request.WellFormed) {candidate : Candidate}
    (hc : candidate.toSignature.WellFormed request.table) (hb : b.Closed request.table)
    (h : ResultBound request candidate b b') :
    Infers request.table b b' ∧ (candidate.GivesResult →
      request.table.isAssignable (candidate.returnType.substitute b') request.target = true) := by
  rcases h.matched_or_kept with ⟨-, hproduces⟩ | ⟨hnone, rfl⟩
  · obtain ⟨hi, hfits⟩ := produces_sound hr.supertypes hc.result hr.target hb hproduces
    exact ⟨hi, fun _ => hfits⟩
  · exact ⟨.refl hb, fun hgives => absurd hgives hnone⟩

/-- The bindings of a method: every parameter is bound to what fits it, and where the method gives a
result, that fits the target. -/
theorem bind?_sound (hr : request.WellFormed) {candidate : Candidate} {bound : List Binding}
    (hc : candidate.toSignature.WellFormed request.table)
    (h : bind? request candidate = some (bound, b')) :
    List.Forall₂ (Binding.Binds request b') candidate.parameters bound ∧
      (candidate.GivesResult →
        request.table.isAssignable (candidate.returnType.substitute b') request.target = true) := by
  obtain ⟨b, hparameters, hresult⟩ := bind?_eq_some h
  obtain ⟨hi, hfit⟩ := bindParameters_sound hr hc.parameters (closed_nil _) hparameters
  obtain ⟨hi', hfits⟩ := hresult.sound hr hc hi.closed
  exact ⟨hfit b' hi'.keeps, hfits⟩

/-- A mapping method that creates its result takes one source and gives its result. -/
theorem creates_of_bind? {candidate : Candidate} {bound : List Binding}
    (hflags : candidate.flags = {}) (hupdate : candidate.isUpdate = false)
    (h : bind? request candidate = some (bound, b')) :
    candidate.sources.length = 1 ∧ candidate.GivesResult := by
  obtain ⟨b, -, hresult⟩ := bind?_eq_some h
  have hmapping : candidate.flags.family = .mapping := by rw [hflags]; rfl
  cases hresult with
  | mapping hfamily hsources hvoid _ => exact ⟨hsources, Or.inr ⟨hfamily, hvoid⟩⟩
  | update _ _ _ hother _ => rw [hupdate] at hother; cases hother
  | factory hfamily _ _ _ => rw [hmapping] at hfamily; cases hfamily
  | callback hfamily _ _ => rw [hmapping] at hfamily; cases hfamily
  | presenceCheck hfamily _ _ _ => rw [hmapping] at hfamily; cases hfamily

end Matching

end BeanMapper
