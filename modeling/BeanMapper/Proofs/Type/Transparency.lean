import BeanMapper.Type.Catalog

/-!
# What a catalog remembers

A catalog answers with the types that it has built since its last declaration. It finds them by how
they are written, and what is known inside their arguments does not count; so the type that it
remembers may hold an argument that was looked up before a class was declared anew. Everything else
is up to date, whatever was looked up before: the traits of a type, its component and what stands in
for it (`Catalog.parse_outer`). A catalog that remembers only what is up to date inside as well
answers as one that remembers nothing, and no other does (`Catalog.transparent_iff`).
-/

namespace BeanMapper

/-! ## Knowledge in force -/

namespace KnownType

/-- All that is known of a type is what a class table says now: its traits, those of its component
or of what stands in for it, and, if one looks `inside`, those of its arguments. -/
inductive UpToDate (table : ClassTable) (inside : Bool) : KnownType → Prop where
  | void : UpToDate table inside .void
  | primitive (p : Primitive) : UpToDate table inside (.primitive p)
  | typeVar (name : String) : UpToDate table inside (.typeVar name)
  | array {component : KnownType} (h : UpToDate table inside component) :
    UpToDate table inside (.array component)
  | plain {name : String} {args : List KnownType}
    (hargs : inside = true → ∀ arg ∈ args, UpToDate table inside arg)
    (hnone : Platform.implementation? name = none) :
    UpToDate table inside (.declared name args (table.traits (.declared name (tys args))) none)
  | standIn {name stand : String} {args : List KnownType} {implementation : KnownType}
    (hargs : inside = true → ∀ arg ∈ args, UpToDate table inside arg)
    (hstand : Platform.implementation? name = some stand)
    (hty : implementation.ty = .declared stand (tys args))
    (h : UpToDate table inside implementation) :
    UpToDate table inside
      (.declared name args (table.traits (.declared name (tys args))) (some implementation))

/-- What is known of a type outside of its arguments: the type with its traits, followed by its
component or by what stands in for it. -/
def outer : KnownType → List (Ty × ClassTable.Traits)
  | declared name args traits none => [(.declared name (tys args), traits)]
  | declared name args traits (some implementation) =>
    (.declared name (tys args), traits) :: implementation.outer
  | array component => (.array component.ty, (array component).traits) :: component.outer
  | other => [(other.ty, other.traits)]

variable {table : ClassTable} {inside : Bool} {known other : KnownType}

/-- If one looks inside, the arguments of a type that is up to date are. -/
theorem UpToDate.args {name : String} {args : List KnownType} {traits : ClassTable.Traits}
    {implementation : Option KnownType}
    (h : (declared name args traits implementation).UpToDate table inside)
    (hinside : inside = true) : ∀ arg ∈ args, arg.UpToDate table inside := by
  cases h with
  | plain hargs => exact hargs hinside
  | standIn hargs => exact hargs hinside

/-- Argument lists that are up to date are determined by their types, if each argument is. -/
theorem eq_of_tys {args others : List KnownType}
    (h : ∀ arg ∈ args, ∀ other : KnownType, other.UpToDate table inside → arg.ty = other.ty →
      arg = other)
    (ho : ∀ other ∈ others, other.UpToDate table inside) (htys : tys args = tys others) :
    args = others := by
  induction args generalizing others with
  | nil => cases others with
    | nil => rfl
    | cons => cases htys
  | cons arg args ih => cases others with
    | nil => cases htys
    | cons other others =>
      obtain ⟨hty, htys⟩ := List.cons.inj htys
      obtain ⟨hother, hothers⟩ := List.forall_mem_cons.1 ho
      rw [h arg List.mem_cons_self other hother hty,
        ih (fun a ha => h a (List.mem_cons_of_mem _ ha)) hothers htys]

/-- What is up to date of a type is the same: outside of the arguments, and altogether if one looks
inside. -/
theorem UpToDate.agree (h : known.UpToDate table inside) (ho : other.UpToDate table inside)
    (hty : known.ty = other.ty) :
    known.outer = other.outer ∧ (inside = true → known = other) := by
  induction h generalizing other with
  | void => cases ho with
    | void => exact ⟨rfl, fun _ => rfl⟩
    | _ => cases hty
  | primitive p => cases ho with
    | primitive q =>
      cases Ty.primitive.inj hty
      exact ⟨rfl, fun _ => rfl⟩
    | _ => cases hty
  | typeVar name => cases ho with
    | typeVar other =>
      cases Ty.typeVar.inj hty
      exact ⟨rfl, fun _ => rfl⟩
    | _ => cases hty
  | array h ih => cases ho with
    | array ho =>
      have hcomponent := Ty.array.inj hty
      obtain ⟨houter, heq⟩ := ih ho hcomponent
      refine ⟨?_, fun hinside => by rw [heq hinside]⟩
      rw [outer, outer, houter, hcomponent]
      rfl
    | _ => cases hty
  | plain hargs hnone ihargs => cases ho with
    | plain hothers =>
      obtain ⟨rfl, htys⟩ := Ty.declared.inj hty
      refine ⟨by rw [outer, outer, htys], fun hinside => ?_⟩
      have heq := eq_of_tys
        (fun arg harg other ho hty => (ihargs hinside arg harg ho hty).2 hinside)
        (hothers hinside) htys
      rw [heq]
    | standIn _ hstand =>
      -- whether a class has a stand-in does not depend on its arguments
      rw [(Ty.declared.inj hty).1, hstand] at hnone
      cases hnone
    | _ => cases hty
  | standIn hargs hstand himplementation _ ihargs ih => cases ho with
    | plain _ hnone =>
      rw [(Ty.declared.inj hty).1, hnone] at hstand
      cases hstand
    | standIn hothers hother hothers' ho =>
      obtain ⟨rfl, htys⟩ := Ty.declared.inj hty
      rw [hother] at hstand
      cases hstand
      obtain ⟨houter, himplementations⟩ := ih ho (by rw [himplementation, hothers', htys])
      refine ⟨by rw [outer, outer, houter, htys], fun hinside => ?_⟩
      have heq := eq_of_tys
        (fun arg harg other ho hty => (ihargs hinside arg harg ho hty).2 hinside)
        (hothers hinside) htys
      rw [heq, himplementations hinside]
    | _ => cases hty

end KnownType

namespace Catalog

/-! ## Look-ups -/

/-- What is remembered under a key is that class, and what is known of it is up to date. -/
structure Fits (table : ClassTable) (inside : Bool) (key : Ty) (known : KnownType) : Prop where
  ty_eq : known.ty = key
  isDeclared : key.isDeclared = true
  upToDate : known.UpToDate table inside

/-- All that a catalog remembers is up to date. -/
def Current (inside : Bool) (catalog : Catalog) : Prop :=
  ∀ key known, catalog.known.lookup key = some known → Fits catalog.table inside key known

/-- A later state of a catalog, without a declaration in between: nothing is forgotten. -/
structure Extends (before after : Catalog) : Prop where
  table_eq : after.table = before.table
  keeps : ∀ key known, before.known.lookup key = some known → after.known.lookup key = some known

/-- A look-up in a catalog that is up to date gives what is wanted, forgets nothing and leaves the
catalog up to date. -/
def Yields (table : ClassTable) (inside : Bool) (look : Lookup α) (wanted : α → Prop) : Prop :=
  ∀ catalog : Catalog, catalog.table = table → catalog.Current inside →
    wanted (look.run catalog).1 ∧ catalog.Extends (look.run catalog).2 ∧
      (look.run catalog).2.Current inside

variable {table : ClassTable} {inside : Bool} {catalog : Catalog}

theorem Extends.refl (catalog : Catalog) : catalog.Extends catalog := ⟨rfl, fun _ _ h => h⟩

theorem Extends.trans {a b c : Catalog} (hab : a.Extends b) (hbc : b.Extends c) : a.Extends c :=
  ⟨hbc.table_eq.trans hab.table_eq, fun key known h => hbc.keeps key known (hab.keeps key known h)⟩

theorem current_empty (table : ClassTable) (inside : Bool) : Current inside ⟨table, []⟩ := by
  intro key known h
  cases h

theorem yields_pure {a : α} {wanted : α → Prop} (h : wanted a) :
    Yields table inside (pure a) wanted :=
  fun catalog _ hcurrent => ⟨h, .refl catalog, hcurrent⟩

theorem Yields.mono {look : Lookup α} {wanted other : α → Prop} (h : Yields table inside look wanted)
    (hother : ∀ a, wanted a → other a) : Yields table inside look other := by
  intro catalog htable hcurrent
  obtain ⟨ha, hrest⟩ := h catalog htable hcurrent
  exact ⟨hother _ ha, hrest⟩

theorem yields_bind {look : Lookup α} {next : α → Lookup β} {between : α → Prop}
    {wanted : β → Prop} (h : Yields table inside look between)
    (hnext : ∀ a, between a → Yields table inside (next a) wanted) :
    Yields table inside (look >>= next) wanted := by
  intro catalog htable hcurrent
  obtain ⟨ha, hextends, hcurrent'⟩ := h catalog htable hcurrent
  obtain ⟨hb, hextends', hcurrent''⟩ :=
    hnext _ ha _ (hextends.table_eq.trans htable) hcurrent'
  exact ⟨hb, hextends.trans hextends', hcurrent''⟩

/-- A type is known, and what is known of it is up to date. -/
def IsNow (table : ClassTable) (inside : Bool) (ty : Ty) (known : KnownType) : Prop :=
  known.ty = ty ∧ known.UpToDate table inside

/-- A type that is remembered is found. -/
theorem run_build_of_known {implementation : Option KnownType} {name : String}
    {args : List KnownType} {known : KnownType}
    (h : catalog.known.lookup (.declared name (KnownType.tys args)) = some known) :
    (build implementation name args).run catalog = (known, catalog) := by
  simp only [build, StateT.run_bind, StateT.run_get, pure_bind, h]
  rfl

/-- A type that is not remembered is built and remembered. -/
theorem run_build_of_unknown {implementation : Option KnownType} {name : String}
    {args : List KnownType}
    (h : catalog.known.lookup (.declared name (KnownType.tys args)) = none) :
    let key := Ty.declared name (KnownType.tys args)
    let known := KnownType.declared name args (catalog.table.traits key) implementation
    (build implementation name args).run catalog =
      (known, { catalog with known := (key, known) :: catalog.known }) := by
  simp only [build, StateT.run_bind, StateT.run_get, pure_bind, h]
  rfl

theorem build_yields {implementation : Option KnownType} {name : String} {args : List KnownType}
    (h : (KnownType.declared name args (table.traits (.declared name (KnownType.tys args)))
      implementation).UpToDate table inside) :
    Yields table inside (build implementation name args)
      (IsNow table inside (.declared name (KnownType.tys args))) := by
  intro catalog htable hcurrent
  subst htable
  cases hfound : catalog.known.lookup (.declared name (KnownType.tys args)) with
  | some known =>
    rw [run_build_of_known hfound]
    have hfits := hcurrent _ _ hfound
    exact ⟨⟨hfits.ty_eq, hfits.upToDate⟩, .refl catalog, hcurrent⟩
  | none =>
    rw [run_build_of_unknown hfound]
    refine ⟨⟨rfl, h⟩, ⟨rfl, fun key known hkey => ?_⟩, fun key known hkey => ?_⟩
    · have hne : key ≠ .declared name (KnownType.tys args) := by
        rintro rfl
        rw [hfound] at hkey
        cases hkey
      rw [List.lookup_cons, beq_eq_false_iff_ne.2 hne]
      exact hkey
    · rw [List.lookup_cons] at hkey
      split at hkey
      · rename_i heq
        cases hkey
        exact ⟨(eq_of_beq heq).symm, by rw [eq_of_beq heq]; rfl, h⟩
      · exact hcurrent key known hkey

theorem run_lookUp_of_known {name : String} {args : List KnownType} {known : KnownType}
    (h : catalog.known.lookup (.declared name (KnownType.tys args)) = some known) :
    (lookUp name args).run catalog = (known, catalog) := by
  simp only [lookUp, StateT.run_bind, StateT.run_get, pure_bind, h]
  rfl

/-- A class is looked up, with arguments that need to be up to date only if one looks inside. -/
theorem lookUp_yields (name : String) {args : List KnownType}
    (hargs : inside = true → ∀ arg ∈ args, arg.UpToDate table inside) :
    Yields table inside (lookUp name args)
      (IsNow table inside (.declared name (KnownType.tys args))) := by
  intro catalog htable hcurrent
  cases hfound : catalog.known.lookup (.declared name (KnownType.tys args)) with
  | some known =>
    rw [run_lookUp_of_known hfound]
    have hfits := hcurrent _ _ hfound
    exact ⟨⟨hfits.ty_eq, htable ▸ hfits.upToDate⟩, .refl catalog, hcurrent⟩
  | none =>
    cases hstand : Platform.implementation? name with
    | none =>
      have hrun : (lookUp name args).run catalog = (build none name args).run catalog := by
        simp only [lookUp, StateT.run_bind, StateT.run_get, pure_bind, hfound, hstand]
      rw [hrun]
      exact build_yields (.plain hargs hstand) catalog htable hcurrent
    | some stand =>
      have hrun : (lookUp name args).run catalog =
          (build none stand args >>= fun known => build (some known) name args).run catalog := by
        simp only [lookUp, StateT.run_bind, StateT.run_get, pure_bind, hfound, hstand]
      rw [hrun]
      -- the class that stands in is built first, and needs no stand-in itself
      have hplain := build_yields (.plain hargs (Platform.implementation?_stand hstand))
      refine yields_bind hplain (fun known hknown => ?_) catalog htable hcurrent
      exact build_yields (.standIn hargs hstand hknown.1 hknown.2)

mutual

theorem lookUpType_yields :
    ∀ ty : Ty, Yields table inside (lookUpType ty) (IsNow table inside ty)
  | .void => yields_pure ⟨rfl, .void⟩
  | .primitive p => yields_pure ⟨rfl, .primitive p⟩
  | .typeVar name => yields_pure ⟨rfl, .typeVar name⟩
  | .array component => yields_bind (lookUpType_yields component) fun known h =>
      yields_pure ⟨congrArg Ty.array h.1, .array h.2⟩
  | .declared name args => yields_bind (lookUpTypes_yields args) fun knowns h => by
      rw [← h.1]
      exact lookUp_yields name fun _ => h.2

theorem lookUpTypes_yields : ∀ tys : List Ty, Yields table inside (lookUpTypes tys) fun knowns =>
    KnownType.tys knowns = tys ∧ ∀ known ∈ knowns, known.UpToDate table inside
  | [] => yields_pure ⟨rfl, by simp⟩
  | ty :: rest => yields_bind (lookUpType_yields ty) fun known h =>
      yields_bind (lookUpTypes_yields rest) fun knowns hs => by
        refine yields_pure ⟨by rw [KnownType.tys, h.1, hs.1], fun other hmem => ?_⟩
        rcases List.mem_cons.1 hmem with rfl | hmem
        · exact h.2
        · exact hs.2 other hmem

end

/-- A text is read as without a memory, and what it denotes is looked up. -/
theorem run_parse (text : String) (catalog : Catalog) :
    (parse text).run catalog =
      match catalog.table.parse text with
      | .error error => (.error error, catalog)
      | .ok ty => (.ok ((lookUpType ty).run catalog).1, ((lookUpType ty).run catalog).2) := by
  cases hread : catalog.table.parse text with
  | error error =>
    simp only [parse, StateT.run_bind, StateT.run_get, pure_bind, hread]
    rfl
  | ok ty =>
    simp only [parse, StateT.run_bind, StateT.run_get, pure_bind, hread]
    rfl

/-- A text is read, and what it denotes is known up to date. -/
theorem parse_yields (text : String) : Yields table inside (parse text) fun answer =>
    ∀ known, answer = .ok known → known.UpToDate table inside := by
  intro catalog htable hcurrent
  rw [run_parse]
  cases catalog.table.parse text with
  | error error => exact ⟨nofun, .refl catalog, hcurrent⟩
  | ok ty =>
    obtain ⟨hnow, hrest⟩ := lookUpType_yields ty catalog htable hcurrent
    refine ⟨?_, hrest⟩
    rintro known ⟨⟩
    exact hnow.2

/-! ## Substitution -/

mutual

/-- What is substituted into a type is as up to date as the type and the bindings are. -/
theorem substitute_yields {bindings : List (String × KnownType)}
    (hb : inside = true → ∀ binding ∈ bindings, binding.2.UpToDate table inside) :
    ∀ known : KnownType, (inside = true → known.UpToDate table inside) →
      Yields table inside (substitute bindings known) fun result =>
        inside = true → result.UpToDate table inside
  | .void => fun _ => yields_pure fun _ => .void
  | .primitive p => fun _ => yields_pure fun _ => .primitive p
  | .typeVar name => fun _ => yields_pure fun hinside => by
      cases hfound : bindings.reverse.lookup name with
      | none => exact .typeVar name
      | some known =>
        -- the value of a variable is one of the bindings
        obtain ⟨before, after, heq, -⟩ := List.lookup_eq_some_iff.1 hfound
        refine hb hinside (name, known) (List.mem_reverse.1 ?_)
        rw [heq]
        exact List.mem_append_right _ List.mem_cons_self
  | .array component => fun h => by
      have hcomponent : inside = true → component.UpToDate table inside := fun hinside => by
        cases h hinside with
        | array h => exact h
      exact yields_bind (substitute_yields hb component hcomponent) fun result hresult =>
        yields_pure fun hinside => .array (hresult hinside)
  | .declared name [] traits implementation => fun h => yields_pure h
  | .declared name (arg :: args) traits implementation => fun h => by
      unfold substitute
      split
      · exact yields_pure h
      · refine yields_bind (substitute_yields hb arg fun hinside =>
          (h hinside).args hinside arg List.mem_cons_self) fun result hresult => ?_
        refine yields_bind (substituteAll_yields hb args fun hinside other hmem =>
          (h hinside).args hinside other (List.mem_cons_of_mem _ hmem)) fun results hresults => ?_
        refine (lookUp_yields name fun hinside => ?_).mono fun known hknown _ => hknown.2
        exact List.forall_mem_cons.2 ⟨hresult hinside, hresults hinside⟩

theorem substituteAll_yields {bindings : List (String × KnownType)}
    (hb : inside = true → ∀ binding ∈ bindings, binding.2.UpToDate table inside) :
    ∀ knowns : List KnownType, (inside = true → ∀ known ∈ knowns, known.UpToDate table inside) →
      Yields table inside (substituteAll bindings knowns) fun results =>
        inside = true → ∀ result ∈ results, result.UpToDate table inside
  | [] => fun _ => yields_pure fun _ _ hmem => by cases hmem
  | known :: rest => fun h => by
      refine yields_bind (substitute_yields hb known fun hinside =>
        h hinside known List.mem_cons_self) fun result hresult => ?_
      refine yields_bind (substituteAll_yields hb rest fun hinside other hmem =>
        h hinside other (List.mem_cons_of_mem _ hmem)) fun results hresults => ?_
      exact yields_pure fun hinside =>
        List.forall_mem_cons.2 ⟨hresult hinside, hresults hinside⟩

end

/-! ## Histories -/

/-- What happens to a catalog. The types that a look-up is given may come from anywhere, from before
a declaration too. -/
inductive Event where
  | declare (decl : ClassDecl)
  | lookUp (name : String) (args : List KnownType)
  | parse (text : String)
  | substitute (bindings : List (String × KnownType)) (known : KnownType)

namespace Event

def apply (catalog : Catalog) : Event → Catalog
  | declare decl => catalog.declare decl
  | lookUp name args => ((Catalog.lookUp name args).run catalog).2
  | parse text => ((Catalog.parse text).run catalog).2
  | substitute bindings known => ((Catalog.substitute bindings known).run catalog).2

/-- An event is a look-up, and the types that it is given are up to date. -/
def Feeds (table : ClassTable) : Event → Prop
  | declare _ => False
  | lookUp _ args => ∀ arg ∈ args, arg.UpToDate table true
  | parse _ => True
  | substitute bindings known =>
    known.UpToDate table true ∧ ∀ binding ∈ bindings, binding.2.UpToDate table true

/-- Whatever a catalog is given, it stays up to date outside of arguments. -/
theorem apply_current (event : Event) (h : catalog.Current false) :
    (event.apply catalog).Current false := by
  cases event with
  | declare decl => exact current_empty _ _
  | lookUp name args =>
    refine (lookUp_yields name ?_ catalog rfl h).2.2
    nofun
  | parse text => exact (parse_yields text catalog rfl h).2.2
  | substitute bindings known =>
    refine (substitute_yields ?_ known ?_ catalog rfl h).2.2 <;> nofun

/-- With types that are up to date, a catalog stays so inside of arguments as well. -/
theorem Feeds.apply_current {event : Event} (hevent : event.Feeds catalog.table)
    (h : catalog.Current true) :
    catalog.Extends (event.apply catalog) ∧ (event.apply catalog).Current true := by
  cases event with
  | declare decl => cases hevent
  | lookUp name args => exact (lookUp_yields name (fun _ => hevent) catalog rfl h).2
  | parse text => exact (parse_yields text catalog rfl h).2
  | substitute bindings known =>
    exact (substitute_yields (fun _ => hevent.2) known (fun _ => hevent.1) catalog rfl h).2

end Event

/-- A new catalog after a history of events. -/
def after (events : List Event) : Catalog := events.foldl Event.apply {}

/-- A catalog of the same classes that remembers nothing. -/
def forgetful (catalog : Catalog) : Catalog := ⟨catalog.table, []⟩

theorem after_current (events : List Event) : (after events).Current false := by
  suffices ∀ catalog : Catalog, catalog.Current false →
      (events.foldl Event.apply catalog).Current false from this {} (current_empty _ _)
  induction events with
  | nil => exact fun _ h => h
  | cons event rest ih => exact fun catalog h => ih _ (event.apply_current h)

theorem foldl_feeds {events : List Event} (hevents : ∀ event ∈ events, event.Feeds catalog.table)
    (h : catalog.Current true) : (events.foldl Event.apply catalog).Current true := by
  induction events generalizing catalog with
  | nil => exact h
  | cons event rest ih =>
    obtain ⟨hextends, hcurrent⟩ := (hevents event List.mem_cons_self).apply_current h
    refine ih (fun other hmem => ?_) hcurrent
    rw [hextends.table_eq]
    exact hevents other (List.mem_cons_of_mem _ hmem)

/-! ## Transparency -/

/-- What two catalogs of the same classes give for a text agrees as far as what they give for the
type that it denotes. -/
theorem parse_congr {β : Type} (view : KnownType → β)
    (h : ∀ ty, view ((lookUpType ty).run catalog).1 =
      view ((lookUpType ty).run catalog.forgetful).1) (text : String) :
    ((parse text).run catalog).1.map view = ((parse text).run catalog.forgetful).1.map view := by
  rw [run_parse, run_parse]
  cases hread : catalog.table.parse text with
  | error error =>
    simp only [forgetful, hread]
  | ok ty =>
    simp only [forgetful, hread]
    exact congrArg Except.ok (h ty)

/-- **Everything but arguments is up to date.** Whatever has been declared and looked up before, and
whatever types the look-ups were given, the type that a text denotes is known outside of its
arguments as if nothing had been looked up before: its traits, its component and what stands in for
it. -/
theorem parse_outer (events : List Event) (text : String) :
    ((parse text).run (after events)).1.map KnownType.outer =
      ((parse text).run (after events).forgetful).1.map KnownType.outer := by
  refine parse_congr KnownType.outer (fun ty => ?_) text
  obtain ⟨hnow, -⟩ := lookUpType_yields ty (after events) rfl (after_current events)
  obtain ⟨hfresh, -⟩ := lookUpType_yields ty (after events).forgetful rfl (current_empty _ _)
  exact (hnow.2.agree hfresh.2 (hnow.1.trans hfresh.1.symm)).1

/-- A type that is remembered is the answer. -/
theorem lookUpType_of_known {key : Ty} {known : KnownType} (hcurrent : catalog.Current inside)
    (h : catalog.known.lookup key = some known) : ((lookUpType key).run catalog).1 = known := by
  have hdeclared := (hcurrent key known h).isDeclared
  cases key with
  | declared name args =>
    obtain ⟨⟨htys, -⟩, hextends, -⟩ := lookUpTypes_yields args catalog rfl hcurrent
    have hfound : ((lookUpTypes args).run catalog).2.known.lookup
        (.declared name (KnownType.tys ((lookUpTypes args).run catalog).1)) = some known := by
      rw [htys]
      exact hextends.keeps _ _ h
    change ((lookUp name ((lookUpTypes args).run catalog).1).run
      ((lookUpTypes args).run catalog).2).1 = known
    rw [run_lookUp_of_known hfound]
  | _ => cases hdeclared

/-- **A catalog is transparent if what it remembers is up to date.** It answers every look-up as if
nothing had been looked up before exactly if all that it remembers is up to date, inside of
arguments as well. -/
theorem transparent_iff (events : List Event) :
    (∀ ty, ((lookUpType ty).run (after events)).1 =
      ((lookUpType ty).run (after events).forgetful).1) ↔ (after events).Current true := by
  constructor
  · intro h key known hfound
    have hfits := after_current events key known hfound
    obtain ⟨hfresh, -⟩ := lookUpType_yields key (after events).forgetful rfl (current_empty _ true)
    rw [← h key, lookUpType_of_known (after_current events) hfound] at hfresh
    exact ⟨hfits.ty_eq, hfits.isDeclared, hfresh.2⟩
  · intro h ty
    obtain ⟨hnow, -⟩ := lookUpType_yields ty (after events) rfl h
    obtain ⟨hfresh, -⟩ := lookUpType_yields ty (after events).forgetful rfl (current_empty _ true)
    exact (hnow.2.agree hfresh.2 (hnow.1.trans hfresh.1.symm)).2 rfl

/-- If all types that the look-ups since the last declaration were given are up to date, a text
denotes what it would if nothing had been looked up before. -/
theorem parse_transparent {events later : List Event} {decl : ClassDecl}
    (hlater : ∀ event ∈ later, event.Feeds ((after events).table.declare decl)) (text : String) :
    let now := after (events ++ .declare decl :: later)
    ((parse text).run now).1 = ((parse text).run now.forgetful).1 := by
  intro now
  have hnow : now = later.foldl Event.apply ((after events).declare decl) := List.foldl_append
  have hcurrent : now.Current true := by
    rw [hnow]
    exact foldl_feeds hlater (current_empty _ _)
  have hsame := parse_congr id ((transparent_iff _).2 hcurrent) text
  rwa [Except.map_id] at hsame

end Catalog

/-! ## An item that becomes an interface -/

namespace Stock

open Catalog (Event)

/-- An item as it is known before it is declared anew. -/
def item : KnownType :=
  ((Catalog.lookUp "shop.Item" []).run (Catalog.after [.declare (.plain "shop.Item")])).1

/-- The item is declared anew, as an interface, and a list of the earlier item is asked for. -/
def history : List Event := [.declare (.plain "shop.Item"), .declare (.interface "shop.Item"),
  .lookUp "java.util.List" [item]]

/-- The traits of the arguments of a type. -/
def argumentTraits : KnownType → List ClassTable.Traits
  | .declared _ args _ _ => args.map KnownType.traits
  | _ => []

/-- Where a list of items is read, the catalog answers with the earlier item in it, which is no
interface. -/
theorem not_always_transparent : ¬∀ (events : List Event) (text : String),
    ((Catalog.parse text).run (Catalog.after events)).1 =
      ((Catalog.parse text).run (Catalog.after events).forgetful).1 := by
  intro h
  have hsame := congrArg (fun answer => answer.toOption.map argumentTraits)
    (h history "java.util.List<shop.Item>")
  revert hsame
  decide +kernel

end Stock

end BeanMapper
