import BeanMapper.Proofs.Type.Views
import Mathlib.Logic.Relation

/-!
# What the searches of the hierarchy find

Both searches expand a class name once and have one unit of fuel for every supertype entry of the
table, so neither stops early. `edges?_isSome_iff` says that the search by names finds exactly what
can be reached along erased names, and `mem_closure_iff` that the closure holds exactly the classes
that can be reached along the supertypes as they are read, unless a class names one of its own
parameters as a supertype.
-/

namespace BeanMapper.ClassTable

/-- The names that can be reached from a name along the names that `next` gives. -/
def Leads (next : String → List String) : String → String → Prop :=
  Relation.ReflTransGen fun name other => other ∈ next name

variable {table : ClassTable} {seen : List String} {fuel : Nat}

/-! ## Fuel -/

/-- The number of supertypes that a list of declarations has for classes not yet expanded. -/
def entriesLeft (seen : List String) : List ClassDecl → Nat
  | [] => 0
  | decl :: rest =>
    (if decl.name ∈ seen then 0 else decl.supertypes.length) + entriesLeft seen rest

/-- The number of supertypes of the classes that a search has not expanded yet. -/
def pending (table : ClassTable) (seen : List String) : Nat := entriesLeft seen table.decls

theorem entriesLeft_cons_le (name : String) (seen : List String) (decls : List ClassDecl) :
    entriesLeft (name :: seen) decls ≤ entriesLeft seen decls := by
  induction decls with
  | nil => exact Nat.le_refl 0
  | cons decl rest ih =>
    simp only [entriesLeft, List.mem_cons]
    by_cases h : decl.name ∈ seen
    · simpa [h] using ih
    · by_cases hn : decl.name = name <;> simp only [h, hn, or_false, true_or, if_true, if_false]
        <;> omega

theorem entriesLeft_expand {decls : List ClassDecl} {decl : ClassDecl} (hm : decl ∈ decls)
    (hs : decl.name ∉ seen) :
    decl.supertypes.length + entriesLeft (decl.name :: seen) decls ≤ entriesLeft seen decls := by
  induction decls with
  | nil => cases hm
  | cons other rest ih =>
    simp only [entriesLeft, List.mem_cons]
    rcases List.mem_cons.1 hm with rfl | hm
    · have := entriesLeft_cons_le decl.name seen rest
      simp only [hs, true_or, if_true, if_false]
      omega
    · have := ih hm
      by_cases h : other.name ∈ seen
      · simp only [h, or_true, if_true]; omega
      · by_cases hn : other.name = decl.name <;>
          simp only [h, hn, or_false, true_or, if_true, if_false] <;> omega

theorem find?_name {name : String} {decl : ClassDecl} (h : table.find? name = some decl) :
    decl ∈ table.decls ∧ decl.name = name :=
  ⟨List.mem_of_find?_eq_some h, by simpa using List.find?_some h⟩

/-- A class that is expanded uses up its supertypes. -/
theorem pending_expand {name : String} {decl : ClassDecl} (h : table.find? name = some decl)
    (hs : name ∉ seen) :
    decl.supertypes.length + table.pending (name :: seen) ≤ table.pending seen := by
  obtain ⟨hm, rfl⟩ := find?_name h
  exact entriesLeft_expand hm hs

theorem pending_cons_le (table : ClassTable) (name : String) (seen : List String) :
    table.pending (name :: seen) ≤ table.pending seen := entriesLeft_cons_le name seen _

theorem searchFuel_eq (table : ClassTable) : table.searchFuel = table.pending [] + 2 := by
  have h : ∀ decls : List ClassDecl,
      (decls.flatMap ClassDecl.supertypes).length = entriesLeft [] decls := by
    intro decls
    induction decls with
    | nil => rfl
    | cons decl rest ih => simp [entriesLeft, ih]
  rw [searchFuel, pending, h]

theorem supertypeNames_pending (table : ClassTable) {name : String} (hs : name ∉ seen) :
    (table.supertypeNames name).length + table.pending (name :: seen) ≤ table.pending seen := by
  unfold supertypeNames
  split
  · rw [List.length_map]; exact pending_expand ‹_› hs
  · simpa using pending_cons_le table name seen

theorem supertypes_pending (table : ClassTable) {name : String} (args : List Ty)
    (hs : name ∉ seen) :
    (table.supertypes name args).length + table.pending (name :: seen) ≤ table.pending seen := by
  cases hd : table.find? name with
  | none => simpa [supertypes_of_unknown hd] using pending_cons_le table name seen
  | some decl =>
    have hle : (table.supertypes name args).length ≤ decl.supertypes.length := by
      rw [supertypes_of_find? hd, List.length_map]
      exact List.length_filterMap_le _ _
    have := pending_expand hd hs
    omega

/-! ## The search by names -/

variable {goal : String} {queue : List (String × Nat)}

theorem searchName_sound {depth : Nat}
    (h : table.searchName goal fuel seen queue = some depth) :
    ∃ entry ∈ queue, Leads table.supertypeNames entry.1 goal := by
  induction fuel generalizing seen queue with
  | zero => cases h
  | succ fuel ih =>
    cases queue with
    | nil => cases h
    | cons entry queue =>
      obtain ⟨name, depth⟩ := entry
      rw [searchName] at h
      split at h
      · rename_i hgoal
        exact ⟨(name, depth), by simp, hgoal ▸ .refl⟩
      · split at h
        · obtain ⟨entry, he, hl⟩ := ih h
          exact ⟨entry, by simp [he], hl⟩
        · obtain ⟨entry, he, hl⟩ := ih h
          rcases List.mem_append.1 he with he | he
          · exact ⟨entry, by simp [he], hl⟩
          · obtain ⟨supertype, hs, rfl⟩ := List.mem_map.1 he
            exact ⟨(name, depth), by simp, .head hs hl⟩

/-- A search that finds nothing has expanded a set of names that nothing leads out of and that the
goal is not in. While it runs, whatever follows an expanded name is expanded or waits. -/
theorem searchName_closed (hf : queue.length + table.pending seen < fuel)
    (h : table.searchName goal fuel seen queue = none) (hg : goal ∉ seen)
    (hn : ∀ name ∈ seen, ∀ other ∈ table.supertypeNames name,
      other ∈ seen ∨ other ∈ queue.map Prod.fst) :
    ∃ expanded : List String, seen ⊆ expanded ∧ queue.map Prod.fst ⊆ expanded ∧
      goal ∉ expanded ∧
      ∀ name ∈ expanded, ∀ other ∈ table.supertypeNames name, other ∈ expanded := by
  induction fuel generalizing seen queue with
  | zero => omega
  | succ fuel ih =>
    cases queue with
    | nil =>
      exact ⟨seen, List.Subset.refl _, by simp, hg, fun name hname other hother =>
        (hn name hname other hother).resolve_right (by simp)⟩
    | cons entry queue =>
      obtain ⟨name, depth⟩ := entry
      rw [searchName] at h
      split at h
      · cases h
      · rename_i hne
        simp only [List.map_cons, List.mem_cons, List.cons_subset, List.length_cons] at hn hf ⊢
        split at h
        · rename_i hseen
          -- a name that has been expanded leaves the queue and is passed over
          obtain ⟨expanded, hs, hq, hgoal, hclosed⟩ := ih (by omega) h hg fun n hm o ho => by
            rcases hn n hm o ho with h' | rfl | h'
            · exact Or.inl h'
            · exact Or.inl hseen
            · exact Or.inr h'
          exact ⟨expanded, hs, ⟨hs hseen, hq⟩, hgoal, hclosed⟩
        · rename_i hseen
          -- the name is expanded now, and its supertypes wait behind all others
          have hfuel := supertypeNames_pending table hseen
          obtain ⟨expanded, hs, hq, hgoal, hclosed⟩ := ih
            (by simp only [List.length_append, List.length_map]; omega) h
            (by simpa [Ne.symm hne] using hg) fun n hm o ho => by
              simp only [List.map_append, List.map_map, List.mem_append, List.mem_cons]
              rcases List.mem_cons.1 hm with rfl | hm
              · exact Or.inr (Or.inr (List.mem_map.2 ⟨o, ho, rfl⟩))
              · rcases hn n hm o ho with h' | rfl | h'
                · exact Or.inl (Or.inr h')
                · exact Or.inl (Or.inl rfl)
                · exact Or.inr (Or.inl h')
          simp only [List.cons_subset, List.map_append, List.append_subset] at hs hq
          exact ⟨expanded, hs.2, ⟨hs.1, hq.1⟩, hgoal, hclosed⟩

theorem mem_of_leads {next : String → List String} {names : List String} {source : String}
    (hs : source ∈ names) (hn : ∀ name ∈ names, ∀ other ∈ next name, other ∈ names)
    (h : Leads next source goal) : goal ∈ names := by
  induction h with
  | refl => exact hs
  | tail _ hstep ih => exact hn _ ih _ hstep

/-- One class is at some distance from another exactly if erased names lead there. -/
theorem edges?_isSome_iff (table : ClassTable) (source goal : String) :
    (table.edges? source goal).isSome = true ↔ Leads table.supertypeNames source goal := by
  unfold edges?
  constructor
  · intro h
    obtain ⟨depth, h⟩ := Option.isSome_iff_exists.1 h
    obtain ⟨entry, he, hl⟩ := searchName_sound h
    rw [List.mem_singleton.1 he] at hl
    exact hl
  · intro hl
    by_contra h
    rw [Bool.not_eq_true, Option.isSome_eq_false_iff, Option.isNone_iff_eq_none] at h
    obtain ⟨expanded, -, hq, hgoal, hclosed⟩ := searchName_closed
      (by rw [searchFuel_eq, List.length_singleton]; omega) h (by simp) (by simp)
    exact hgoal (mem_of_leads (hq (by simp)) hclosed hl)

/-! ## The closure -/

/-- The classes among the supertypes of a class, as their texts are read. -/
def readNames (table : ClassTable) (name : String) : List String :=
  match table.find? name with
  | some decl => ((table.parsedSupertypes decl).filter Ty.isDeclared).map Ty.qualifiedName
  | none => []

/-- A class names none of its own type parameters as a supertype. -/
def NamesNoParameter (table : ClassTable) (name : String) : Prop :=
  ∀ decl, table.find? name = some decl → ∀ parameter ∈ decl.typeParams,
    Ty.typeVar parameter ∉ table.parsedSupertypes decl

/-- Arguments change what a supertype is applied to, not which class it is. -/
theorem shape_instantiate {decl : ClassDecl} {ty : Ty} (args : List Ty)
    (h : ∀ parameter ∈ decl.typeParams, ty ≠ .typeVar parameter) :
    (instantiate decl args ty).isDeclared = ty.isDeclared ∧
      (ty.isDeclared = true → (instantiate decl args ty).qualifiedName = ty.qualifiedName) := by
  unfold instantiate
  split
  · cases ty <;> exact ⟨rfl, fun _ => by first | rfl | contradiction⟩
  · cases ty with
    | typeVar name =>
      have hname : name ∉ decl.typeParams := fun hm => h name hm rfl
      simp [Ty.substitute, bindingsOf, value?_zip_none hname, Ty.isDeclared]
    | declared name as => rw [substitute_declared]; exact ⟨rfl, fun _ => rfl⟩
    | _ => exact ⟨rfl, fun h => by cases h⟩

theorem mem_readNames {name other : String} (h : table.NamesNoParameter name) (args : List Ty) :
    other ∈ table.readNames name ↔
      ∃ ty ∈ table.supertypes name args, ty.isDeclared = true ∧ ty.qualifiedName = other := by
  unfold readNames
  cases hd : table.find? name with
  | none => simp [supertypes_of_unknown hd]
  | some decl =>
    rw [supertypes_of_find? hd]
    simp only [List.mem_map, List.mem_filter, exists_exists_and_eq_and, and_assoc]
    refine exists_congr fun ty => and_congr_right fun hty => ?_
    have hshape := shape_instantiate args fun p hp (heq : ty = .typeVar p) =>
      h decl hd p hp (heq ▸ hty)
    rw [hshape.1]
    exact and_congr_right fun hdecl => by rw [hshape.2 hdecl]

variable {types : List Ty}

/-- With fuel for the whole table the closure leaves nothing out: it has every class of the queue,
and every class that a view has as a supertype, except those that were expanded before. -/
theorem closureFrom_complete (hf : types.length + table.pending seen < fuel) :
    (∀ ty ∈ types, ty.isDeclared = true → ty.qualifiedName ∈ seen ∨
      ty.qualifiedName ∈ (table.closureFrom fuel seen types).map Ty.qualifiedName) ∧
    ∀ view ∈ table.closureFrom fuel seen types, ∀ ty ∈ table.supertypes view.qualifiedName view.args,
      ty.isDeclared = true → ty.qualifiedName ∈ seen ∨
        ty.qualifiedName ∈ (table.closureFrom fuel seen types).map Ty.qualifiedName := by
  induction fuel generalizing seen types with
  | zero => omega
  | succ fuel ih =>
    cases types with
    | nil => simp [closureFrom]
    | cons ty types =>
      rw [List.length_cons] at hf
      cases hdecl : ty.isDeclared with
      | false =>
        have hfuel : types.length + table.pending seen < fuel := by omega
        obtain ⟨hq, hv⟩ := ih hfuel
        rw [closureFrom_skip hdecl]
        refine ⟨fun t ht hd => ?_, hv⟩
        rcases List.mem_cons.1 ht with rfl | ht
        · rw [hdecl] at hd; cases hd
        · exact hq t ht hd
      | true =>
        cases ty with
        | declared name args =>
          rw [closureFrom]
          split
          · rename_i hseen
            have hfuel : types.length + table.pending seen < fuel := by omega
            obtain ⟨hq, hv⟩ := ih hfuel
            refine ⟨fun t ht hd => ?_, hv⟩
            rcases List.mem_cons.1 ht with rfl | ht
            · exact Or.inl hseen
            · exact hq t ht hd
          · rename_i hseen
            have hfuel : (types ++ table.supertypes name args).length +
                table.pending (name :: seen) < fuel := by
              have := supertypes_pending table args hseen
              rw [List.length_append]
              omega
            obtain ⟨hq, hv⟩ := ih hfuel
            -- whatever the rest of the search has or had before it, this search has too
            have hmore : ∀ n, (n ∈ name :: seen ∨ n ∈ (table.closureFrom fuel (name :: seen)
                (types ++ table.supertypes name args)).map Ty.qualifiedName) →
                n ∈ seen ∨ n ∈ (Ty.declared name args :: table.closureFrom fuel (name :: seen)
                  (types ++ table.supertypes name args)).map Ty.qualifiedName := by
              intro n hn
              rw [List.map_cons, List.mem_cons, Ty.qualifiedName]
              rcases hn with hn | hn
              · rcases List.mem_cons.1 hn with rfl | hn
                · exact Or.inr (Or.inl rfl)
                · exact Or.inl hn
              · exact Or.inr (Or.inr hn)
            constructor
            · intro t ht hd
              rcases List.mem_cons.1 ht with rfl | ht
              · exact Or.inr (by simp)
              · exact hmore _ (hq t (by simp [ht]) hd)
            · intro view hview t ht hd
              rcases List.mem_cons.1 hview with rfl | hview
              · exact hmore _ (hq t (List.mem_append_right _ ht) hd)
              · exact hmore _ (hv view hview t ht hd)
        | _ => cases hdecl

/-- The closure of a class has a view of a name exactly if the supertypes that are read lead from
the class to that name, provided that no class on the way has a parameter as a supertype. -/
theorem mem_closure_iff {name : String} (args : List Ty)
    (hno : ∀ other, Leads table.readNames name other → table.NamesNoParameter other) :
    goal ∈ (table.closure (.declared name args)).map Ty.qualifiedName ↔
      Leads table.readNames name goal := by
  unfold closure
  constructor
  · intro h
    obtain ⟨view, hview, rfl⟩ := List.mem_map.1 h
    have hstart : ∀ ty ∈ [Ty.declared name args], ty.isDeclared = true →
        Leads table.readNames name ty.qualifiedName :=
      List.forall_mem_singleton.2 fun _ => .refl
    refine closureFrom_forall (fun other as hl ty hty hclass => ?_) hstart view hview
    exact hl.tail ((mem_readNames (hno other hl) as).2 ⟨ty, hty, hclass, rfl⟩)
  · intro h
    -- the other way the search must not run out of fuel
    have hfuel : [Ty.declared name args].length + table.pending [] < table.searchFuel := by
      rw [searchFuel_eq, List.length_singleton]
      omega
    obtain ⟨hq, hv⟩ := closureFrom_complete hfuel
    simp only [List.not_mem_nil, false_or] at hq hv
    induction h with
    | refl => exact hq (.declared name args) (List.mem_singleton_self _) rfl
    | @tail middle last hl hstep ih =>
      obtain ⟨view, hview, rfl⟩ := List.mem_map.1 ih
      obtain ⟨ty, ht, hd, rfl⟩ := (mem_readNames (hno _ hl) view.args).1 hstep
      exact hv view hview ty ht hd

/-- A class has a view as another exactly if the supertypes that are read lead there. -/
theorem asSupertype?_isSome_iff {name : String} (args : List Ty) (hgoal : goal ≠ Platform.object)
    (hno : ∀ other, Leads table.readNames name other → table.NamesNoParameter other) :
    (table.asSupertype? (.declared name args) goal).isSome = true ↔
      Leads table.readNames name goal := by
  rw [← mem_closure_iff args hno, asSupertype?, if_neg (fun h => hgoal h.1), List.find?_isSome,
    List.mem_map]
  simp

end BeanMapper.ClassTable
