import BeanMapper.Type.Property
import Mathlib.Data.List.Forall2
import Mathlib.Data.Prod.Lex
import Mathlib.Order.WellFounded

/-!
# Which declaration a property comes from

The properties of a type are gathered from all classes of its closure. Every declaration among them
has a place: that of the class in the closure, and its own in the class (`PropertySite`). Places are
compared in this order, and of the declarations of one name the first counts, whatever the later
ones say. `properties_inherited` says this of all properties of a type and of the error if there are
none.
-/

namespace BeanMapper

/-- A declaration of a property among the supertypes of a type: its place, the class as it is seen
from the type, the declaration of that class and the one of the property. -/
structure PropertySite where
  place : Nat ×ₗ Nat
  view : Ty
  owner : ClassDecl
  decl : PropertyDecl

namespace PropertySite

structure IsIn (table : ClassTable) (ty : Ty) (site : PropertySite) : Prop where
  view : (table.closure ty)[(ofLex site.place).1]? = some site.view
  owner : table.declOf? site.view = some site.owner
  decl : site.owner.properties[(ofLex site.place).2]? = some site.decl

/-- The property is declared there, and at no earlier place. -/
structure IsFirst (table : ClassTable) (ty : Ty) (site : PropertySite) : Prop
    extends site.IsIn table ty where
  first : ∀ other : PropertySite, other.IsIn table ty → other.decl.name = site.decl.name →
    site.place ≤ other.place

/-- The property whose declared type is read as the given one: the arguments of the view take the
place of its class's parameters. -/
def property (site : PropertySite) (read : Ty) : Property where
  name := site.decl.name
  ty := read.substitute (site.owner.typeParams.zip site.view.args)
  isReadable := site.decl.hasGetter
  isWritable := site.decl.hasSetter
  hasPresenceChecker := site.decl.hasPresenceChecker

/-- The declaration with the values of its class's parameters. -/
def entry (site : PropertySite) : Ty.Bindings × PropertyDecl :=
  (ClassTable.bindingsOf site.owner site.view.args, site.decl)

end PropertySite

/-! ## Readings in a row -/

section Readings

variable {α β ε : Type} {f : α → Except ε β} {xs : List α}

theorem mapM_eq_ok {ys : List β} (h : xs.mapM f = .ok ys) :
    List.Forall₂ (fun x y => f x = .ok y) xs ys := by
  induction xs generalizing ys with
  | nil => cases h; exact .nil
  | cons x xs ih =>
    simp only [List.mapM_cons, bind, Except.bind, pure, Except.pure] at h
    split at h
    · cases h
    · rename_i y hy
      split at h <;> cases h
      rename_i ys hys
      exact .cons hy (ih hys)

/-- In two lists that correspond, each member has a counterpart in the other. -/
theorem forall₂_counterparts {r : α → β → Prop} {ys : List β} (h : List.Forall₂ r xs ys) :
    (∀ x ∈ xs, ∃ y ∈ ys, r x y) ∧ ∀ y ∈ ys, ∃ x ∈ xs, r x y := by
  induction h with
  | nil => simp
  | @cons x y xs ys hxy _ ih =>
    constructor
    · intro a ha
      rcases List.mem_cons.1 ha with rfl | ha
      · exact ⟨y, List.mem_cons_self, hxy⟩
      · exact (ih.1 a ha).imp fun b ⟨hb, hab⟩ => ⟨List.mem_cons_of_mem y hb, hab⟩
    · intro b hb
      rcases List.mem_cons.1 hb with rfl | hb
      · exact ⟨x, List.mem_cons_self, hxy⟩
      · exact (ih.2 b hb).imp fun a ⟨ha, hab⟩ => ⟨List.mem_cons_of_mem x ha, hab⟩

/-- The first reading that fails gives the error. -/
theorem mapM_eq_error {e : ε} (h : xs.mapM f = .error e) :
    ∃ before x after, xs = before ++ x :: after ∧ f x = .error e ∧
      ∀ y ∈ before, ∃ value, f y = .ok value := by
  induction xs with
  | nil => cases h
  | cons x xs ih =>
    simp only [List.mapM_cons, bind, Except.bind, pure, Except.pure] at h
    split at h
    · rename_i hx
      cases h
      exact ⟨[], x, xs, rfl, hx, by simp⟩
    · rename_i value hx
      split at h <;> cases h
      rename_i hxs
      obtain ⟨before, y, after, rfl, hy, hbefore⟩ := ih hxs
      exact ⟨x :: before, y, after, rfl, hy, List.forall_mem_cons.2 ⟨⟨value, hx⟩, hbefore⟩⟩

end Readings

namespace ClassTable

variable {table : ClassTable} {ty : Ty} {site : PropertySite}

/-! ## All declarations in order -/

/-- The declarations of the class that is seen at a place of the closure. -/
def sitesOf (table : ClassTable) (index : Nat) (view : Ty) : List PropertySite :=
  match table.declOf? view with
  | some owner =>
    owner.properties.zipIdx.map fun entry => ⟨toLex (index, entry.2), view, owner, entry.1⟩
  | none => []

/-- The declarations of all classes of the closure. -/
def sites (table : ClassTable) (ty : Ty) : List PropertySite :=
  (table.closure ty).zipIdx.flatMap fun entry => table.sitesOf entry.2 entry.1

theorem mem_sitesOf {index : Nat} {view : Ty} : site ∈ table.sitesOf index view ↔
    (ofLex site.place).1 = index ∧ site.view = view ∧ table.declOf? view = some site.owner ∧
      site.owner.properties[(ofLex site.place).2]? = some site.decl := by
  unfold sitesOf
  cases hdecl : table.declOf? view with
  | none => simp
  | some owner =>
    simp only [List.mem_map, Prod.exists, List.mk_mem_zipIdx_iff_getElem?, Option.some.injEq]
    constructor
    · rintro ⟨decl, place, hplace, rfl⟩
      exact ⟨rfl, rfl, rfl, hplace⟩
    · rintro ⟨rfl, rfl, rfl, hplace⟩
      exact ⟨site.decl, _, hplace, rfl⟩

theorem mem_sites : site ∈ table.sites ty ↔ site.IsIn table ty := by
  simp only [sites, List.mem_flatMap, Prod.exists, List.mk_mem_zipIdx_iff_getElem?, mem_sitesOf]
  constructor
  · rintro ⟨view, index, hview, rfl, rfl, howner, hdecl⟩
    exact ⟨hview, howner, hdecl⟩
  · rintro ⟨hview, howner, hdecl⟩
    exact ⟨site.view, _, hview, rfl, rfl, howner, hdecl⟩

theorem pairwise_zipIdx {α : Type} (xs : List α) :
    xs.zipIdx.Pairwise fun x y => x.2 < y.2 := by
  have hplaces : (xs.zipIdx.map Prod.snd).Pairwise (· < ·) := by
    rw [List.zipIdx_map_snd]
    exact List.pairwise_lt_range'
  exact List.pairwise_map.1 hplaces

theorem sites_sorted (table : ClassTable) (ty : Ty) :
    (table.sites ty).Pairwise fun site later => site.place < later.place := by
  refine List.pairwise_flatMap.2 ⟨fun entry _ => ?_, ?_⟩
  · unfold sitesOf
    cases table.declOf? entry.1 with
    | none => exact .nil
    | some owner =>
      refine List.pairwise_map.2 ((pairwise_zipIdx owner.properties).imp fun hlt => ?_)
      exact Prod.Lex.toLex_lt_toLex.2 (Or.inr ⟨rfl, hlt⟩)
  · refine (pairwise_zipIdx _).imp fun hlt site hsite later hlater => ?_
    rw [mem_sitesOf] at hsite hlater
    refine Prod.Lex.lt_iff.2 (Or.inl ?_)
    rw [hsite.1, hlater.1]
    exact hlt

theorem map_entry_sitesOf (table : ClassTable) (index : Nat) (view : Ty) :
    (table.sitesOf index view).map PropertySite.entry =
      match table.declOf? view with
      | some decl => decl.properties.map fun property => (bindingsOf decl view.args, property)
      | none => [] := by
  unfold sitesOf
  cases table.declOf? view with
  | none => rfl
  | some owner =>
    conv_rhs => simp only; rw [← List.zipIdx_map_fst 0 owner.properties]
    rw [List.map_map, List.map_map]
    rfl

theorem propertyDecls_eq (table : ClassTable) (ty : Ty) :
    table.propertyDecls ty = (table.sites ty).map PropertySite.entry := by
  rw [sites, List.map_flatMap, propertyDecls]
  simp only [map_entry_sitesOf]
  conv_lhs => rw [← List.zipIdx_map_fst 0 (table.closure ty)]
  exact List.flatMap_map ..

/-! ## The declarations that count -/

/-- What is visible of declarations in order are those whose name is not hidden and not declared at
an earlier place. -/
theorem exists_visible {sites : List PropertySite} (hidden : List String)
    (hsorted : sites.Pairwise fun site later => site.place < later.place) :
    ∃ kept : List PropertySite, visibleDecls hidden (sites.map PropertySite.entry) =
        kept.map PropertySite.entry ∧
      kept.Sublist sites ∧
      ∀ site, site ∈ kept ↔ site ∈ sites ∧ site.decl.name ∉ hidden ∧
        ∀ other ∈ sites, other.decl.name = site.decl.name → site.place ≤ other.place := by
  induction sites generalizing hidden with
  | nil => exact ⟨[], rfl, .refl [], by simp⟩
  | cons head rest ih =>
    obtain ⟨hhead, hrest⟩ := List.pairwise_cons.1 hsorted
    rw [List.map_cons, PropertySite.entry, visibleDecls]
    split
    · rename_i hhidden
      obtain ⟨kept, hvisible, hsub, hkept⟩ := ih hidden hrest
      refine ⟨kept, hvisible, hsub.cons head, fun site => ?_⟩
      rw [hkept, List.mem_cons, List.forall_mem_cons]
      constructor
      · rintro ⟨hmem, hname, hfirst⟩
        exact ⟨Or.inr hmem, hname, fun heq => absurd (heq ▸ hhidden) hname, hfirst⟩
      · rintro ⟨rfl | hmem, hname, -, hfirst⟩
        · exact absurd hhidden hname
        · exact ⟨hmem, hname, hfirst⟩
    · rename_i hnew
      obtain ⟨kept, hvisible, hsub, hkept⟩ := ih (head.decl.name :: hidden) hrest
      refine ⟨head :: kept, congrArg _ hvisible, hsub.cons_cons head, fun site => ?_⟩
      rw [List.mem_cons, hkept, List.mem_cons, List.forall_mem_cons, List.mem_cons, not_or]
      constructor
      · rintro (rfl | ⟨hmem, ⟨hother, hname⟩, hfirst⟩)
        · exact ⟨Or.inl rfl, hnew, fun _ => le_refl _, fun other hmem _ => (hhead other hmem).le⟩
        · exact ⟨Or.inr hmem, hname, fun heq => absurd heq.symm hother, hfirst⟩
      · rintro ⟨rfl | hmem, hname, hbefore, hfirst⟩
        · exact Or.inl rfl
        · -- a later declaration of the first name is not the first of its name
          have hother : site.decl.name ≠ head.decl.name := fun heq =>
            absurd (hhead site hmem) (not_lt_of_ge (hbefore heq.symm))
          exact Or.inr ⟨hmem, ⟨hother, hname⟩, hfirst⟩

theorem property_eq (table : ClassTable) (site : PropertySite) :
    table.property site.entry.1 site.entry.2 =
      (table.parse site.decl.typeText).map site.property := by
  simp only [property, PropertySite.entry, bind, Except.bind]
  cases table.parse site.decl.typeText <;> rfl

/-- The properties of a type are read from the first declarations of their names, in order. -/
theorem exists_firsts (table : ClassTable) (ty : Ty) :
    ∃ firsts : List PropertySite,
      (firsts.Pairwise fun site later => site.place < later.place) ∧
      (∀ site, site ∈ firsts ↔ site.IsFirst table ty) ∧
      table.properties ty =
        firsts.mapM fun site => (table.parse site.decl.typeText).map site.property := by
  obtain ⟨firsts, hvisible, hsub, hfirsts⟩ := exists_visible [] (table.sites_sorted ty)
  refine ⟨firsts, (table.sites_sorted ty).sublist hsub, fun site => ?_, ?_⟩
  · rw [hfirsts, mem_sites]
    simp only [mem_sites]
    exact ⟨fun ⟨hin, _, hfirst⟩ => ⟨hin, hfirst⟩, fun h => ⟨h.toIsIn, List.not_mem_nil, h.first⟩⟩
  · rw [properties, propertyDecls_eq, hvisible, List.mapM_map]
    simp only [Function.comp_def, property_eq]

/-- Whatever is declared is declared first somewhere. -/
theorem exists_isFirst (h : site.IsIn table ty) :
    ∃ first : PropertySite, first.IsFirst table ty ∧ first.decl.name = site.decl.name := by
  have hwf : WellFounded fun a b : PropertySite => a.place < b.place :=
    InvImage.wf PropertySite.place wellFounded_lt
  obtain ⟨first, ⟨hin, hname⟩, hleast⟩ := hwf.has_min
    {other | other.IsIn table ty ∧ other.decl.name = site.decl.name} ⟨site, h, rfl⟩
  exact ⟨first, ⟨hin, fun other hother heq => not_lt.1 (hleast other ⟨hother, heq.trans hname⟩)⟩,
    hname⟩

theorem exists_isIn_iff {name : String} :
    (∃ site : PropertySite, site.IsIn table ty ∧ site.decl.name = name) ↔
      ∃ view ∈ table.closure ty, ∃ owner, table.declOf? view = some owner ∧
        ∃ decl ∈ owner.properties, decl.name = name := by
  constructor
  · rintro ⟨site, hin, rfl⟩
    exact ⟨site.view, List.mem_of_getElem? hin.view, site.owner, hin.owner, site.decl,
      List.mem_of_getElem? hin.decl, rfl⟩
  · rintro ⟨view, hview, owner, howner, decl, hdecl, rfl⟩
    obtain ⟨index, hindex⟩ := List.mem_iff_getElem?.1 hview
    obtain ⟨within, hwithin⟩ := List.mem_iff_getElem?.1 hdecl
    exact ⟨⟨toLex (index, within), view, owner, decl⟩, ⟨hindex, howner, hwithin⟩, rfl⟩

/-! ## Properties of a type -/

theorem map_parse_eq_ok {text : String} {f : Ty → Property} {property : Property}
    (h : (table.parse text).map f = .ok property) :
    ∃ read, table.parse text = .ok read ∧ property = f read := by
  cases hread : table.parse text with
  | error e => rw [hread] at h; cases h
  | ok read => rw [hread] at h; cases h; exact ⟨read, rfl, rfl⟩

theorem map_parse_eq_error {text : String} {f : Ty → Property} {e : TypeSyntaxError}
    (h : (table.parse text).map f = .error e) : table.parse text = .error e := by
  cases hread : table.parse text with
  | error e' => rw [hread] at h; cases h; rfl
  | ok read => rw [hread] at h; cases h

/-- Properties that are read are those that are declared first, in their order. -/
theorem properties_ok {found : List Property} (h : table.properties ty = .ok found) :
    ∃ firsts : List PropertySite,
      (firsts.Pairwise fun site later => site.place < later.place) ∧
      (∀ site, site ∈ firsts ↔ site.IsFirst table ty) ∧
      List.Forall₂ (fun site property =>
        ∃ read, table.parse site.decl.typeText = .ok read ∧ property = site.property read)
        firsts found := by
  obtain ⟨firsts, hsorted, hfirsts, hproperties⟩ := exists_firsts table ty
  rw [hproperties] at h
  exact ⟨firsts, hsorted, hfirsts, (mapM_eq_ok h).imp fun _ _ => map_parse_eq_ok⟩

/-- Every property that is read comes from a declaration that is first. -/
theorem exists_site {found : List Property} {property : Property}
    (h : table.properties ty = .ok found) (hmem : property ∈ found) :
    ∃ (site : PropertySite) (read : Ty), site.IsFirst table ty ∧
      table.parse site.decl.typeText = .ok read ∧ property = site.property read := by
  obtain ⟨firsts, -, hfirsts, hread⟩ := properties_ok h
  obtain ⟨site, hsite, read, hparse, rfl⟩ := (forall₂_counterparts hread).2 property hmem
  exact ⟨site, read, (hfirsts site).1 hsite, hparse, rfl⟩

/-- An error is that of the foremost declaration that cannot be read among those that are first. -/
theorem properties_error {e : TypeSyntaxError} (h : table.properties ty = .error e) :
    ∃ site : PropertySite, site.IsFirst table ty ∧ table.parse site.decl.typeText = .error e ∧
      ∀ earlier : PropertySite, earlier.IsFirst table ty → earlier.place < site.place →
        (table.parse earlier.decl.typeText).isOk = true := by
  obtain ⟨firsts, hsorted, hfirsts, hproperties⟩ := exists_firsts table ty
  rw [hproperties] at h
  obtain ⟨before, site, after, rfl, hsite, hbefore⟩ := mapM_eq_error h
  refine ⟨site, (hfirsts site).1 (by simp), map_parse_eq_error hsite,
    fun earlier hearlier hlt => ?_⟩
  have hafter : ∀ later ∈ after, site.place < later.place :=
    (List.pairwise_cons.1 (List.pairwise_append.1 hsorted).2.1).1
  rcases List.mem_append.1 ((hfirsts earlier).2 hearlier) with hmem | hmem
  · obtain ⟨property, hproperty⟩ := hbefore earlier hmem
    obtain ⟨read, hread, -⟩ := map_parse_eq_ok hproperty
    rw [hread]
    rfl
  · rcases List.mem_cons.1 hmem with rfl | hmem
    · exact absurd hlt (lt_irrefl _)
    · exact absurd hlt (hafter earlier hmem).asymm

/-- Of the declarations that are first no two have the same name. -/
theorem nodup_firsts {firsts : List PropertySite}
    (hsorted : firsts.Pairwise fun site later => site.place < later.place)
    (hfirsts : ∀ site ∈ firsts, site.IsFirst table ty) :
    (firsts.map fun site => site.decl.name).Nodup := by
  refine List.pairwise_map.2 (hsorted.imp_of_mem fun hsite hlater hlt heq => ?_)
  exact not_le_of_gt hlt ((hfirsts _ hlater).first _ (hfirsts _ hsite).toIsIn heq)

theorem map_name_eq {firsts : List PropertySite} {found : List Property}
    (h : List.Forall₂ (fun site property =>
      ∃ read, table.parse site.decl.typeText = .ok read ∧ property = site.property read)
      firsts found) :
    found.map Property.name = firsts.map fun site => site.decl.name := by
  refine Eq.symm (List.forall₂_eq_eq_eq ▸
    List.forall₂_map_left_iff.2 (List.forall₂_map_right_iff.2 ?_))
  exact h.imp fun _ _ ⟨_, _, heq⟩ => heq ▸ rfl

/-- A type has one property of each name. -/
theorem nodup_properties {found : List Property} (h : table.properties ty = .ok found) :
    (found.map Property.name).Nodup := by
  obtain ⟨firsts, hsorted, hfirsts, hread⟩ := properties_ok h
  rw [map_name_eq hread]
  exact nodup_firsts hsorted fun site => (hfirsts site).1

/-- **Properties are those that are declared first.** If all of them can be read, a type has one
property of each name that a class of its closure declares, in the order of the first declarations
of their names, and each is what the first declaration of its name says, with the arguments of that
view in its type. They cannot be read exactly if the type text of some first declaration cannot; the
error is then that of the foremost of these. -/
theorem properties_inherited (table : ClassTable) (ty : Ty) :
    (∀ properties, table.properties ty = .ok properties →
      (properties.map Property.name).Nodup ∧
      (∀ name, name ∈ properties.map Property.name ↔
        ∃ view ∈ table.closure ty, ∃ owner, table.declOf? view = some owner ∧
          ∃ decl ∈ owner.properties, decl.name = name) ∧
      ∃ firsts : List PropertySite,
        (firsts.Pairwise fun site later => site.place < later.place) ∧
        List.Forall₂ (fun site property => site.IsFirst table ty ∧
          ∃ read, table.parse site.decl.typeText = .ok read ∧ property = site.property read)
          firsts properties) ∧
    ((∃ error, table.properties ty = .error error) ↔
      ∃ site : PropertySite, site.IsFirst table ty ∧
        ∃ error, table.parse site.decl.typeText = .error error) ∧
    ∀ error, table.properties ty = .error error →
      ∃ site : PropertySite, site.IsFirst table ty ∧
        table.parse site.decl.typeText = .error error ∧
        ∀ earlier : PropertySite, earlier.IsFirst table ty → earlier.place < site.place →
          (table.parse earlier.decl.typeText).isOk = true := by
  refine ⟨fun found hfound => ?_, ⟨?_, ?_⟩, fun error => properties_error⟩
  · obtain ⟨firsts, hsorted, hfirsts, hread⟩ := properties_ok hfound
    refine ⟨nodup_properties hfound, fun name => ?_, firsts, hsorted, ?_⟩
    · rw [map_name_eq hread, ← exists_isIn_iff, List.mem_map]
      constructor
      · rintro ⟨site, hmem, hname⟩
        exact ⟨site, ((hfirsts site).1 hmem).toIsIn, hname⟩
      · rintro ⟨site, hin, hname⟩
        -- whatever is declared somewhere is declared first somewhere
        obtain ⟨first, hfirst, heq⟩ := exists_isFirst hin
        exact ⟨first, (hfirsts first).2 hfirst, heq.trans hname⟩
    · exact (List.forall₂_and_left _ _).2 ⟨fun site => (hfirsts site).1, hread⟩
  · rintro ⟨error, herror⟩
    obtain ⟨site, hfirst, hsite, -⟩ := properties_error herror
    exact ⟨site, hfirst, error, hsite⟩
  · rintro ⟨site, hfirst, error, hsite⟩
    cases hfound : table.properties ty with
    | error other => exact ⟨other, rfl⟩
    | ok found =>
      -- if all were read, this declaration was too
      obtain ⟨firsts, -, hfirsts, hread⟩ := properties_ok hfound
      obtain ⟨_, -, read, hok, -⟩ :=
        (forall₂_counterparts hread).1 site ((hfirsts site).2 hfirst)
      rw [hok] at hsite
      cases hsite

end ClassTable

/-! ## Cars and what they inherit -/

namespace Garage

def readOnly (name typeText : String) : PropertyDecl := { name, typeText, hasSetter := false }

/-- Cars are vehicles and registered in two ways. Cars have a note of their own in place of one
whose type is no type, and hide the setter of a name. -/
def classes : ClassTable := .declareAll {} [
  .plain Platform.string,
  { ClassDecl.plain "garage.Registered" with
    typeParams := ["K"]
    properties := [{ name := "key", typeText := "K" }, { name := "note", typeText := "Note<" }] },
  { ClassDecl.plain "garage.Vehicle" with
    typeParams := ["V"]
    supertypes := ["garage.Registered<V>"]
    properties := [
      { name := "name", typeText := "String" }, { name := "owner", typeText := "V" }] },
  { ClassDecl.plain "garage.Car" with
    typeParams := ["T"]
    supertypes := ["garage.Vehicle<T>", "garage.Registered<T[]>"]
    properties := [{ name := "note", typeText := "String" }, readOnly "name" "String"] }]

def car : Ty := .declared "garage.Car" [.string]

/-- The properties of a car: its own, then those of a vehicle and of what is registered. -/
def carProperties : List Property := [
  ⟨"note", .string, true, true, false⟩,
  ⟨"name", .string, true, false, false⟩,
  ⟨"owner", .string, true, true, false⟩,
  ⟨"key", .array .string, true, true, false⟩]

/-- The note that is no type does not matter to a car, but what is registered has no properties. -/
theorem properties_inherited_car :
    classes.properties car = .ok carProperties ∧
    (∃ firsts : List PropertySite,
      (firsts.Pairwise fun site later => site.place < later.place) ∧
      List.Forall₂ (fun site property => site.IsFirst classes car ∧
        ∃ read, classes.parse site.decl.typeText = .ok read ∧ property = site.property read)
        firsts carProperties) ∧
    (∃ site : PropertySite, site.IsFirst classes (.named "garage.Registered") ∧
      ∃ error, classes.parse site.decl.typeText = .error error) ∧
    ∃ error, classes.properties (.named "garage.Registered") = .error error := by
  have hcar : classes.properties car = .ok carProperties := by decide +kernel
  obtain ⟨-, -, hfirsts⟩ := (ClassTable.properties_inherited classes car).1 _ hcar
  have hregistered : ∃ error, classes.properties (.named "garage.Registered") = .error error :=
    ⟨.unexpectedEnd "Note<", by decide +kernel⟩
  have hunread := (ClassTable.properties_inherited classes (.named "garage.Registered")).2.1
  exact ⟨hcar, hfirsts, hunread.1 hregistered, hregistered⟩

end Garage

end BeanMapper
