import BeanMapper.Proofs.Type.Agreement

/-!
# Assignability without arguments

What can stand for an erased type follows four rules (`Widens`): the type itself, anything that may
be null for the root of all classes, a class for whatever its supertypes lead to, and an array for
an array of what its elements can stand for. Where no class has a parameter as its supertype, the
test decides these rules (`isAssignable_iff_widens`); and the rules can be chained if nothing is
above the root (`Widens.trans`). So erased types are preordered (`isAssignable_preorder`), though
not types with arguments, between which a raw type stands.
-/

namespace BeanMapper.ClassTable

variable {table : ClassTable} {a b c : Ty}

/-- What a value of a type without arguments can stand for. -/
inductive Widens (table : ClassTable) : Ty → Ty → Prop where
  | same (a : Ty) : Widens table a a
  | root {a : Ty} (h : a.isNullable = true) : Widens table a .object
  | supertype {name goal : String} (h : Leads table.readNames name goal) :
    Widens table (.named name) (.named goal)
  | array {a b : Ty} (h : Widens table a b) : Widens table (.array a) (.array b)

/-! ## The test -/

/-- A class can stand for the root and for what its supertypes lead to. -/
theorem isAssignable_named_iff {name goal : String} (hno : ∀ other, table.NamesNoParameter other) :
    table.isAssignable (.named name) (.named goal) = true ↔
      goal = Platform.object ∨ Leads table.readNames name goal := by
  by_cases hroot : goal = Platform.object
  · simp [Ty.named, isAssignable, hroot]
  · have hview : (table.asSupertype? (.declared name []) goal).isSome = true ↔
        Leads table.readNames name goal := asSupertype?_isSome_iff [] hroot fun other _ => hno other
    rw [← hview, or_iff_right hroot, Ty.named, Ty.named, isAssignable, if_neg hroot]
    split
    · rename_i hsame
      cases hsame
      exact iff_of_true rfl (hview.2 .refl)
    · cases table.asSupertype? (.declared name []) goal <;> simp

/-- What is never null stands for itself alone, and nothing else stands for it. -/
theorem Widens.eq_of_not_nullable (h : table.Widens a b)
    (hn : a.isNullable = false ∨ b.isNullable = false) : a = b := by
  cases h with
  | same => rfl
  | root ha =>
    rcases hn with hn | hn
    · rw [ha] at hn; cases hn
    · cases hn
  | supertype => rcases hn with hn | hn <;> cases hn
  | array => rcases hn with hn | hn <;> cases hn

/-- An erased class has no arguments. -/
theorem args_of_erasure {name : String} {args : List Ty}
    (h : (Ty.declared name args).erasure = .declared name args) : args = [] := by
  cases h
  rfl

theorem component_of_erasure {component : Ty}
    (h : (Ty.array component).erasure = .array component) : component.erasure = component :=
  Ty.array.inj h

theorem widens_of_isAssignable (hno : ∀ other, table.NamesNoParameter other)
    (ha : a.erasure = a) (hb : b.erasure = b) (h : table.isAssignable a b = true) :
    table.Widens a b := by
  induction a using Ty.byParts generalizing b with
  | void =>
    cases b with
    | void => exact .same _
    | _ => cases h
  | primitive p =>
    cases b with
    | primitive q =>
      cases of_decide_eq_true h
      exact .same _
    | _ => cases h
  | declared name args =>
    cases b with
    | declared goal expected =>
      cases args_of_erasure ha
      cases args_of_erasure hb
      rcases (isAssignable_named_iff hno).1 h with rfl | hleads
      · exact .root rfl
      · exact .supertype hleads
    | _ => cases h
  | array component ih =>
    cases b with
    | array other =>
      -- arrays of one type fit, and else their components have to
      rw [isAssignable] at h
      split at h
      · rename_i hsame
        exact hsame ▸ .same _
      · split at h
        · cases h
        · exact .array (ih (component_of_erasure ha) (component_of_erasure hb) h)
    | declared goal expected =>
      cases args_of_erasure hb
      cases of_decide_eq_true h
      exact .root rfl
    | _ => cases h
  | typeVar name =>
    cases b with
    | typeVar other =>
      cases of_decide_eq_true h
      exact .same _
    | declared goal expected =>
      cases args_of_erasure hb
      cases of_decide_eq_true h
      exact .root rfl
    | _ => cases h

theorem Widens.isAssignable (hno : ∀ other, table.NamesNoParameter other)
    (h : table.Widens a b) : table.isAssignable a b = true := by
  induction h with
  | same a => exact isAssignable_refl table a
  | @root a hnullable =>
    cases a with
    | void => cases hnullable
    | primitive p => cases hnullable
    | _ => simp [Ty.object, Ty.named, ClassTable.isAssignable]
  | supertype hleads => exact (isAssignable_named_iff hno).2 (Or.inr hleads)
  | @array a b h ih =>
    rw [ClassTable.isAssignable]
    split
    · rfl
    · rename_i hne
      -- of elements that are never null there is only one kind
      have hnullable : ¬(a.isPrimitive || b.isPrimitive) = true := by
        intro hprimitive
        rcases Bool.or_eq_true_iff.1 hprimitive with hp | hp
        · exact hne (h.eq_of_not_nullable (Or.inl (by simp [Ty.isNullable, hp])))
        · exact hne (h.eq_of_not_nullable (Or.inr (by simp [Ty.isNullable, hp])))
      rw [if_neg hnullable]
      exact ih

/-- On types without arguments the test decides the rules. -/
theorem isAssignable_iff_widens (hno : ∀ other, table.NamesNoParameter other)
    (ha : a.erasure = a) (hb : b.erasure = b) :
    table.isAssignable a b = true ↔ table.Widens a b :=
  ⟨widens_of_isAssignable hno ha hb, Widens.isAssignable hno⟩

/-! ## Chains of rules -/

/-- A root without supertypes stands for nothing but itself. -/
theorem Widens.eq_object (hroot : table.readNames Platform.object = [])
    (h : table.Widens .object b) : b = .object := by
  generalize ha : Ty.object = a at h
  cases h with
  | same => rfl
  | root => exact ha
  | @supertype name goal hleads =>
    cases ha
    rcases Relation.ReflTransGen.cases_head hleads with rfl | ⟨next, hnext, -⟩
    · rfl
    · rw [hroot] at hnext
      cases hnext
  | array => cases ha

theorem Widens.trans (hroot : table.readNames Platform.object = []) (h : table.Widens a b)
    (h' : table.Widens b c) : table.Widens a c := by
  induction h generalizing c with
  | same => exact h'
  | root hnullable =>
    cases h'.eq_object hroot
    exact .root hnullable
  | @supertype name goal hleads =>
    generalize hb : Ty.named goal = b at h'
    cases h' with
    | same => exact hb ▸ .supertype hleads
    | root => exact .root rfl
    | supertype hnext =>
      cases hb
      exact .supertype (hleads.trans hnext)
    | array => cases hb
  | array h ih =>
    cases h' with
    | same => exact .array h
    | root => exact .root rfl
    | array hnext => exact .array (ih hnext)

theorem readNames_of_noSupertypes {name : String}
    (h : ∀ decl ∈ table.find? name, decl.supertypes = []) : table.readNames name = [] := by
  unfold readNames
  split
  · rename_i decl hd
    simp [parsedSupertypes, h decl hd]
  · rfl

/-- **Erased types are preordered by assignability**, however classes are declared, as long as the
root of all classes has no supertype and no class has a type parameter of its own as one. -/
theorem isAssignable_preorder
    (hroot : ∀ decl ∈ table.find? Platform.object, decl.supertypes = [])
    (hno : ∀ name, table.NamesNoParameter name) :
    (∀ a : Ty, a.erasure = a → table.isAssignable a a = true) ∧
      ∀ a b c : Ty, a.erasure = a → b.erasure = b → c.erasure = c →
        table.isAssignable a b = true → table.isAssignable b c = true →
          table.isAssignable a c = true := by
  refine ⟨fun a _ => isAssignable_refl table a, fun a b c ha hb hc hab hbc => ?_⟩
  rw [isAssignable_iff_widens hno ha hb] at hab
  rw [isAssignable_iff_widens hno hb hc] at hbc
  rw [isAssignable_iff_widens hno ha hc]
  exact hab.trans (readNames_of_noSupertypes hroot) hbc

/-- Arguments do not allow it: a list of texts is a list, and a list is a list of numbers. -/
example :
    let texts := Ty.declared Platform.list [.string]
    let lists := Ty.named Platform.list
    let numbers := Ty.declared Platform.list [.named Platform.number]
    Platform.table.isAssignable texts lists = true ∧
      Platform.table.isAssignable lists numbers = true ∧
      Platform.table.isAssignable texts numbers = false := by
  decide +kernel

/-! ## Ferries -/

namespace Fleet

/-- A ferry is a ship in two ways, a vessel and a ship have each other as a supertype, and what
floats is not declared. -/
def classes : ClassTable := .declareAll {} [
  .plain Platform.object,
  (ClassDecl.interface "port.Vessel").generic [] ["port.Ship", "sea.Floating"],
  (ClassDecl.plain "port.Ship").generic ["T"] ["port.Vessel"],
  (ClassDecl.plain "port.Tanker").generic [] ["port.Ship<port.Oil>"],
  (ClassDecl.plain "port.Ferry").generic [] ["port.Tanker", "port.Ship"]]

def fleets (name : String) : Ty := .array (.array (.named name))

/-- Ferries can stand for ships and ships for what floats, so ferries can. -/
theorem isAssignable_preorder_ferries :
    (∀ decl ∈ classes.find? Platform.object, decl.supertypes = []) ∧
      (∀ name, classes.NamesNoParameter name) ∧
      classes.isAssignable (fleets "port.Ferry") (fleets "port.Ship") = true ∧
      classes.isAssignable (fleets "port.Ship") (fleets "sea.Floating") = true ∧
      classes.isAssignable (fleets "port.Ferry") (fleets "sea.Floating") = true := by
  have hroot : ∀ decl ∈ classes.find? Platform.object, decl.supertypes = [] := by decide +kernel
  have hno : ∀ name, classes.NamesNoParameter name := fun name =>
    (consistent_of_texts (by decide +kernel) name).noParameter name .refl
  have hferry : classes.isAssignable (fleets "port.Ferry") (fleets "port.Ship") = true := by
    decide +kernel
  have hship : classes.isAssignable (fleets "port.Ship") (fleets "sea.Floating") = true := by
    decide +kernel
  refine ⟨hroot, hno, hferry, hship, ?_⟩
  exact (isAssignable_preorder hroot hno).2 _ _ _ rfl rfl rfl hferry hship

end Fleet

end BeanMapper.ClassTable
