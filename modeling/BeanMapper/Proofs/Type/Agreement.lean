import BeanMapper.Proofs.Type.Reachability

/-!
# Supertypes cut and supertypes read

What a class is a kind of is asked in two ways. Its traits and distances follow the supertype texts
cut before their arguments, its views follow the same texts read as types. A text can denote another
class than its cut form names: a simple name of the platform does, an array, a wildcard or a
parameter of the class. `searches_agree` says that both ways give the same answers for a class that
leads to no such text; `not_always_agreeing` is a class with the simple name of an interface of the
platform as its supertype.
-/

namespace BeanMapper.ClassTable

/-- Whether a name by itself is that of a class: a declared name, or a class name in a package. -/
def namesClass (table : ClassTable) (name : String) : Bool :=
  table.declares name || (isClassName name && '.' ∈ name.toList)

/-- A class has the same classes as supertypes whether their texts are cut or read. -/
def NamesAgree (table : ClassTable) (name : String) : Prop :=
  ∀ other, table.namesClass other = true →
    (other ∈ table.supertypeNames name ↔ other ∈ table.readNames name)

/-- Every class that a class leads to has the same supertypes both ways, and none of its own
parameters among them. -/
structure Consistent (table : ClassTable) (name : String) : Prop where
  agree : ∀ other, Leads table.supertypeNames name other → table.NamesAgree other
  noParameter : ∀ other, Leads table.supertypeNames name other → table.NamesNoParameter other

variable {table : ClassTable} {name goal : String}

/-! ## Paths -/

theorem declares_of_find? {decl : ClassDecl} (h : table.find? name = some decl) :
    table.namesClass name = true := by
  simp [namesClass, declares, h]

theorem namesClass_of_dotted (h : (isClassName name && '.' ∈ name.toList) = true) :
    table.namesClass name = true := by
  rw [namesClass, h, Bool.or_true]

theorem namesClass_of_supertype {other : String} (h : other ∈ table.supertypeNames name) :
    table.namesClass name = true := by
  unfold supertypeNames at h
  split at h
  · exact declares_of_find? ‹_›
  · cases h

theorem namesClass_of_read {other : String} (h : other ∈ table.readNames name) :
    table.namesClass name = true := by
  unfold readNames at h
  split at h
  · exact declares_of_find? ‹_›
  · cases h

/-- A path to a class only goes through classes, so it is a path of both kinds. -/
theorem Consistent.leads_iff (h : table.Consistent name)
    (hg : table.namesClass goal = true ∨ goal = name) :
    Leads table.supertypeNames name goal ↔ Leads table.readNames name goal := by
  constructor
  · intro hl
    induction hl with
    | refl => exact .refl
    | @tail middle last hl hstep ih =>
      rcases hg with hg | rfl
      · exact (ih (Or.inl (namesClass_of_supertype hstep))).tail
          ((h.agree middle hl last hg).1 hstep)
      · exact .refl
  · intro hl
    induction hl with
    | refl => exact .refl
    | @tail middle last _ hstep ih =>
      rcases hg with hg | rfl
      · have hl := ih (Or.inl (namesClass_of_read hstep))
        exact hl.tail ((h.agree middle hl last hg).2 hstep)
      · exact .refl

/-- What the supertypes that are read lead to has no parameter as a supertype either: if it is
declared then erased names lead there too. -/
theorem Consistent.noParameter_of_read (h : table.Consistent name) {other : String}
    (hl : Leads table.readNames name other) : table.NamesNoParameter other := by
  intro decl hd
  exact h.noParameter other ((h.leads_iff (Or.inl (declares_of_find? hd))).2 hl) decl hd

/-! ## Texts that denote what they name -/

/-- Whether a text denotes the class that it names before its arguments. -/
def denotesErased (table : ClassTable) (text : String) : Bool :=
  match table.parse text with
  | .ok (.declared name _) => name = erasedName text
  | _ => false

theorem parse_of_denotesErased {text : String} (h : table.denotesErased text = true) :
    ∃ args, table.parse text = .ok (.declared (erasedName text) args) := by
  unfold denotesErased at h
  split at h
  · rename_i args hp
    exact ⟨args, by rw [hp, of_decide_eq_true h]⟩
  · cases h

theorem names_of_denotesErased {texts : List String}
    (h : ∀ text ∈ texts, table.denotesErased text = true) :
    ∀ ty ∈ texts.filterMap fun text => (table.parse text).toOption, ty.isDeclared = true := by
  intro ty hty
  obtain ⟨text, ht, hp⟩ := List.mem_filterMap.1 hty
  obtain ⟨args, hparse⟩ := parse_of_denotesErased (h text ht)
  rw [hparse] at hp
  cases hp
  rfl

theorem readNames_of_denotesErased {texts : List String}
    (h : ∀ text ∈ texts, table.denotesErased text = true) :
    (texts.filterMap fun text => (table.parse text).toOption).map Ty.qualifiedName =
      texts.map erasedName := by
  induction texts with
  | nil => rfl
  | cons text rest ih =>
    obtain ⟨args, hparse⟩ := parse_of_denotesErased (h text (by simp))
    rw [List.filterMap_cons_some (b := .declared (erasedName text) args) (by rw [hparse]; rfl),
      List.map_cons, List.map_cons, ih fun t ht => h t (by simp [ht]), Ty.qualifiedName]

theorem readNames_of_texts (h : ∀ decl ∈ table.decls, ∀ text ∈ decl.supertypes,
    table.denotesErased text = true) : table.readNames = table.supertypeNames := by
  funext name
  unfold readNames supertypeNames
  cases hd : table.find? name with
  | none => rfl
  | some decl =>
    have ht := h decl (find?_name hd).1
    simp only [parsedSupertypes, List.filter_eq_self.2 (names_of_denotesErased ht),
      readNames_of_denotesErased ht]

/-- If every supertype text denotes the class that it names, every class is consistent. -/
theorem consistent_of_texts (h : ∀ decl ∈ table.decls, ∀ text ∈ decl.supertypes,
    table.denotesErased text = true) (name : String) : table.Consistent name where
  agree other _ := by
    intro last _
    rw [readNames_of_texts h]
  noParameter other _ := by
    intro decl hd parameter _ hm
    cases names_of_denotesErased (h decl (find?_name hd).1) _ hm

/-- The classes of the platform are consistent. -/
theorem platform_consistent (name : String) : Platform.table.Consistent name :=
  consistent_of_texts (by decide +kernel) name

/-! ## The two kinds of answers -/

theorem distance?_isSome {ty : Ty} (hgoal : goal ≠ Platform.object) :
    (table.distance? ty goal).isSome = (table.edges? ty.qualifiedName goal).isSome := by
  unfold distance?
  split
  · rename_i h; simp [h]
  · rename_i h; rw [h, if_neg fun h => hgoal h.1]

theorem Consistent.edges?_isSome (h : table.Consistent name) (args : List Ty)
    (hgoal : goal ≠ Platform.object) (hg : table.namesClass goal = true) :
    (table.edges? name goal).isSome =
      (table.asSupertype? (.declared name args) goal).isSome := by
  rw [Bool.eq_iff_iff, edges?_isSome_iff, h.leads_iff (Or.inl hg),
    asSupertype?_isSome_iff args hgoal fun _ hl => h.noParameter_of_read hl]

/-- A type has a trait of the platform exactly if it has a view as the class that stands for it. -/
theorem Consistent.reaches_eq (h : table.Consistent name) (args : List Ty)
    (hgoal : goal ≠ Platform.object) (hg : table.namesClass goal = true) :
    table.reaches (.declared name args) goal =
      (table.asSupertype? (.declared name args) goal).isSome := by
  rw [← h.edges?_isSome args hgoal hg, reaches, Ty.isDeclared, Bool.true_and, Ty.qualifiedName]

/-- In a consistent hierarchy a class is iterable, a collection or a map exactly if it has a view as
such, and it is at some distance from a class exactly if it has a view as that class. -/
theorem searches_agree (h : table.Consistent name) (args : List Ty) :
    table.isIterable (.declared name args) =
        (table.asSupertype? (.declared name args) Platform.iterable).isSome ∧
      table.isCollection (.declared name args) =
        (table.asSupertype? (.declared name args) Platform.collection).isSome ∧
      table.isMap (.declared name args) =
        (table.asSupertype? (.declared name args) Platform.map).isSome ∧
      ∀ goal, goal ≠ Platform.object → table.namesClass goal = true →
        (table.distance? (.declared name args) goal).isSome =
          (table.asSupertype? (.declared name args) goal).isSome := by
  refine ⟨h.reaches_eq args (by decide) (namesClass_of_dotted (by decide)),
    h.reaches_eq args (by decide) (namesClass_of_dotted (by decide)),
    h.reaches_eq args (by decide) (namesClass_of_dotted (by decide)), fun goal hgoal hg => ?_⟩
  rw [distance?_isSome hgoal]
  exact h.edges?_isSome args hgoal hg

/-! ## Rosters and crowds -/

namespace Roster

/-- Iterables and collections as the platform declares them. -/
def containers : ClassTable := .declareAll {} [
  (ClassDecl.interface Platform.iterable).generic ["T"] [],
  (ClassDecl.interface Platform.collection).generic ["E"] ["java.lang.Iterable<E>"]]

/-- A roster is a collection of names, under the full name of the interface. -/
def rosters : ClassTable := containers.declare
  ((ClassDecl.plain "club.Roster").generic [] ["java.util.Collection<String>"])

/-- A crowd is iterable, under the simple name of the interface. -/
def crowds : ClassTable := containers.declare
  ((ClassDecl.plain "club.Crowd").generic [] ["Iterable<String>"])

/-- A roster is iterable and a collection, and no map, whichever way one asks. -/
theorem searches_agree_roster : rosters.Consistent "club.Roster" ∧
    rosters.isIterable (.named "club.Roster") =
        (rosters.asSupertype? (.named "club.Roster") Platform.iterable).isSome ∧
      rosters.isCollection (.named "club.Roster") =
        (rosters.asSupertype? (.named "club.Roster") Platform.collection).isSome ∧
      rosters.isMap (.named "club.Roster") =
        (rosters.asSupertype? (.named "club.Roster") Platform.map).isSome ∧
      ∀ goal, goal ≠ Platform.object → rosters.namesClass goal = true →
        (rosters.distance? (.named "club.Roster") goal).isSome =
          (rosters.asSupertype? (.named "club.Roster") goal).isSome := by
  have h : rosters.Consistent "club.Roster" := consistent_of_texts (by decide +kernel) _
  exact ⟨h, searches_agree h []⟩

/-- A crowd has a view as what can be iterated, but is not iterable: its supertype is cut to a name
that is not looked up. -/
theorem not_always_agreeing : ¬∀ (table : ClassTable) (name : String) (args : List Ty),
    (∀ decl ∈ table.decls, ∀ text ∈ decl.supertypes, (table.parse text).isOk = true) →
    table.isIterable (.declared name args) =
      (table.asSupertype? (.declared name args) Platform.iterable).isSome := by
  intro hall
  have hparsed : ∀ decl ∈ crowds.decls, ∀ text ∈ decl.supertypes,
      (crowds.parse text).isOk = true := by decide +kernel
  have htrait : crowds.isIterable (.named "club.Crowd") = false := by decide +kernel
  have hview : (crowds.asSupertype? (.named "club.Crowd") Platform.iterable).isSome = true := by
    decide +kernel
  have h := hall crowds "club.Crowd" [] hparsed
  rw [show Ty.declared "club.Crowd" [] = .named "club.Crowd" from rfl, htrait, hview] at h
  cases h

end Roster

end BeanMapper.ClassTable
