import BeanMapper.Proofs.Type.Enumeration

/-!
# Distances to supertypes

The search by names is described without a bound on its length, as the search for types is: it goes
on until it meets the goal or nothing waits (`Finds`). It always comes to one of these ends.

Its queue never holds more than two levels, the names at some number of edges and behind them names
at one more (`Level`). All names that are nearer have been expanded, and all on the level itself
have been expanded or wait; so a goal that is met without having been expanded is on the level that
its distance says. `edges?_eq_some_iff` is the result for names and `distance_shortest` that for
types, with the distance to the root of all classes where no declaration leads there.
-/

namespace BeanMapper.ClassTable

variable {table : ClassTable} {goal source name : String} {seen here later : List String}
  {queue : List (String × Nat)} {result : Option Nat} {edges depth : Nat}

/-! ## The search to its end -/

/-- A search that has expanded some names and goes on until it meets the goal or its queue is empty
comes to this result. The goal is looked for before a name that has been expanded is passed over. -/
inductive Finds (table : ClassTable) (goal : String) :
    List String → List (String × Nat) → Option Nat → Prop
  | exhausted (seen : List String) : Finds table goal seen [] none
  | found (seen : List String) (depth : Nat) (queue : List (String × Nat)) :
    Finds table goal seen ((goal, depth) :: queue) (some depth)
  | skip {seen : List String} {name : String} {depth : Nat} {queue : List (String × Nat)}
    {result : Option Nat} (hgoal : name ≠ goal) (hold : name ∈ seen)
    (h : Finds table goal seen queue result) : Finds table goal seen ((name, depth) :: queue) result
  | expand {seen : List String} {name : String} {depth : Nat} {queue : List (String × Nat)}
    {result : Option Nat} (hgoal : name ≠ goal) (hnew : name ∉ seen)
    (h : Finds table goal (name :: seen)
      (queue ++ (table.supertypeNames name).map fun supertype => (supertype, depth + 1)) result) :
    Finds table goal seen ((name, depth) :: queue) result

/-- A search has one result only. -/
theorem Finds.unique (h : table.Finds goal seen queue result) {other : Option Nat}
    (h' : table.Finds goal seen queue other) : other = result := by
  induction h generalizing other with
  | exhausted => cases h'; rfl
  | found =>
    cases h' with
    | found => rfl
    | skip hgoal _ _ => exact absurd rfl hgoal
    | expand hgoal _ _ => exact absurd rfl hgoal
  | skip hgoal hold _ ih =>
    cases h' with
    | found => exact absurd rfl hgoal
    | skip _ _ h' => exact ih h'
    | expand _ hnew _ => exact absurd hold hnew
  | expand hgoal hnew _ ih =>
    cases h' with
    | found => exact absurd rfl hgoal
    | skip _ hold _ => exact absurd hold hnew
    | expand _ _ h' => exact ih h'

/-- With fuel for what waits and for all supertypes of classes not yet expanded, the search comes to
its end. -/
theorem searchName_finds {fuel : Nat} (hfuel : queue.length + table.pending seen < fuel) :
    table.Finds goal seen queue (table.searchName goal fuel seen queue) := by
  induction fuel generalizing seen queue with
  | zero => omega
  | succ fuel ih =>
    cases queue with
    | nil => exact .exhausted seen
    | cons entry queue =>
      obtain ⟨name, depth⟩ := entry
      rw [List.length_cons] at hfuel
      rw [searchName]
      split
      · rename_i hgoal
        subst hgoal
        exact .found seen depth queue
      · rename_i hgoal
        split
        · rename_i hold
          exact .skip hgoal hold (ih (by omega))
        · rename_i hnew
          refine .expand hgoal hnew (ih ?_)
          -- the supertypes that come to the queue are no longer pending
          have hsupertypes := supertypeNames_pending table hnew
          rw [List.length_append, List.length_map]
          omega

theorem finds_iff (table : ClassTable) (source goal : String) :
    table.Finds goal [] [(source, 0)] result ↔ result = table.edges? source goal := by
  have hedges : table.Finds goal [] [(source, 0)] (table.edges? source goal) :=
    searchName_finds (by rw [searchFuel_eq, List.length_singleton]; omega)
  constructor
  · exact hedges.unique
  · rintro rfl
    exact hedges

/-! ## Levels -/

/-- How a search by names stands: what it has expanded, what waits of the level that it is on, and
what waits of the next. -/
structure Level (next : String → List String) (source : String) (seen here later : List String)
    (edges : Nat) : Prop where
  reached : ∀ name ∈ here, LeadsIn next source edges name
  ahead : ∀ name ∈ later, LeadsIn next source (edges + 1) name
  nearer : ∀ n < edges, ∀ name, LeadsIn next source n name → name ∈ seen
  complete : ∀ name, LeadsIn next source edges name → name ∈ seen ∨ name ∈ here
  follows : ∀ name ∈ seen, ∀ other ∈ next name, other ∈ seen ∨ other ∈ here ∨ other ∈ later

/-- The queue of a search on a level: the rest of the level, and then the next one. -/
def waiting (here later : List String) (edges : Nat) : List (String × Nat) :=
  here.map (fun name => (name, edges)) ++ later.map fun name => (name, edges + 1)

theorem waiting_append (here later added : List String) (edges : Nat) :
    waiting here (later ++ added) edges =
      waiting here later edges ++ added.map fun name => (name, edges + 1) := by
  rw [waiting, waiting, List.map_append, List.append_assoc]

namespace Level

variable {next : String → List String}

/-- At the start the source itself is all of the first level. -/
theorem start (next : String → List String) (source : String) :
    Level next source [] [source] [] 0 where
  reached name hmem := by
    rw [List.mem_singleton.1 hmem]
    exact .start
  ahead := by simp
  nearer := by simp
  complete name h := by
    cases h
    exact Or.inr (List.mem_singleton_self _)
  follows := by simp

/-- When nothing is left of a level, the search is on the next one. -/
theorem turn (h : Level next source seen [] later edges) :
    Level next source seen later [] (edges + 1) := by
  have hdone : ∀ name, LeadsIn next source edges name → name ∈ seen := fun name hpath =>
    (h.complete name hpath).resolve_right List.not_mem_nil
  refine { reached := h.ahead, ahead := by simp, nearer := ?_, complete := ?_, follows := ?_ }
  · intro n hn name hpath
    rcases Nat.lt_succ_iff_lt_or_eq.1 hn with hn | rfl
    · exact h.nearer n hn name hpath
    · exact hdone name hpath
  · intro name hpath
    cases hpath with
    | @step _ middle _ hmiddle hnext =>
      rcases h.follows middle (hdone middle hmiddle) name hnext with hseen | hhere | hlater
      · exact Or.inl hseen
      · cases hhere
      · exact Or.inr hlater
  · intro name hname other hother
    rcases h.follows name hname other hother with hseen | hhere | hlater
    · exact Or.inl hseen
    · cases hhere
    · exact Or.inr (Or.inl hlater)

/-- A name that has been expanded leaves. -/
theorem skip (h : Level next source seen (name :: here) later edges) (hold : name ∈ seen) :
    Level next source seen here later edges where
  reached other hmem := h.reached other (List.mem_cons_of_mem _ hmem)
  ahead := h.ahead
  nearer := h.nearer
  complete other hpath := by
    rcases h.complete other hpath with hseen | hmem
    · exact Or.inl hseen
    · rcases List.mem_cons.1 hmem with rfl | hmem
      · exact Or.inl hold
      · exact Or.inr hmem
  follows other hother third hthird := by
    rcases h.follows other hother third hthird with hseen | hmem | hlater
    · exact Or.inl hseen
    · rcases List.mem_cons.1 hmem with rfl | hmem
      · exact Or.inl hold
      · exact Or.inr (Or.inl hmem)
    · exact Or.inr (Or.inr hlater)

/-- A name is expanded: what follows it comes to the end of the next level. -/
theorem expand (h : Level next source seen (name :: here) later edges) :
    Level next source (name :: seen) here (later ++ next name) edges := by
  have hexpanded : Level next source (name :: seen) (name :: here) (later ++ next name) edges := {
    reached := h.reached
    ahead := by
      intro other hmem
      rcases List.mem_append.1 hmem with hmem | hmem
      · exact h.ahead other hmem
      · exact (h.reached name List.mem_cons_self).step hmem
    nearer := fun n hn other hpath => List.mem_cons_of_mem _ (h.nearer n hn other hpath)
    complete := fun other hpath => (h.complete other hpath).imp_left (List.mem_cons_of_mem _)
    follows := by
      intro other hother third hthird
      rcases List.mem_cons.1 hother with rfl | hother
      · exact Or.inr (Or.inr (List.mem_append_right _ hthird))
      · exact (h.follows other hother third hthird).imp (List.mem_cons_of_mem _)
          (Or.imp_right (List.mem_append_left _)) }
  exact hexpanded.skip List.mem_cons_self

/-- The first entry of the queue is on the level that the search is on, or it begins the next. -/
theorem exists_head (h : Level next source seen here later edges)
    (hqueue : (name, depth) :: queue = waiting here later edges) :
    ∃ rest after, Level next source seen (name :: rest) after depth ∧
      queue = waiting rest after depth := by
  cases here with
  | cons first rest =>
    obtain ⟨hentry, rfl⟩ := List.cons.inj hqueue
    cases hentry
    exact ⟨rest, later, h, rfl⟩
  | nil =>
    cases later with
    | nil => cases hqueue
    | cons first rest =>
      obtain ⟨hentry, rfl⟩ := List.cons.inj hqueue
      cases hentry
      exact ⟨rest, [], h.turn, (List.append_nil _).symm⟩

/-- A name that has not been expanded is at the distance of the level that it waits on. -/
theorem isDistance (h : Level next source seen (name :: here) later edges) (hnew : name ∉ seen) :
    IsDistance next source name edges := by
  refine ⟨h.reached name List.mem_cons_self, fun n hpath => ?_⟩
  by_contra hn
  exact hnew (h.nearer n (Nat.lt_of_not_le hn) name hpath)

end Level

/-! ## Distances -/

/-- What a search on a level finds is the distance of the goal. -/
theorem Finds.isDistance (h : table.Finds goal seen queue result)
    (hlevel : Level table.supertypeNames source seen here later edges)
    (hqueue : queue = waiting here later edges) (hgoal : goal ∉ seen) :
    ∀ depth, result = some depth → IsDistance table.supertypeNames source goal depth := by
  induction h generalizing here later edges with
  | exhausted => exact nofun
  | found seen depth queue =>
    obtain ⟨rest, after, hlevel, -⟩ := hlevel.exists_head hqueue
    rintro _ ⟨⟩
    exact hlevel.isDistance hgoal
  | skip _ hold _ ih =>
    obtain ⟨rest, after, hlevel, hrest⟩ := hlevel.exists_head hqueue
    exact ih (hlevel.skip hold) hrest hgoal
  | expand hne _ _ ih =>
    obtain ⟨rest, after, hlevel, hrest⟩ := hlevel.exists_head hqueue
    refine ih hlevel.expand ?_ (List.not_mem_cons_of_ne_of_not_mem (Ne.symm hne) hgoal)
    rw [hrest, waiting_append]

/-- One class name is found from another at so many edges exactly if no way there is shorter. -/
theorem edges?_eq_some_iff : table.edges? source goal = some edges ↔
    IsDistance table.supertypeNames source goal edges := by
  have hsound : ∀ n, table.edges? source goal = some n →
      IsDistance table.supertypeNames source goal n :=
    ((finds_iff table source goal).2 rfl).isDistance (Level.start _ source) rfl List.not_mem_nil
  refine ⟨hsound edges, fun hdistance => ?_⟩
  obtain ⟨n, hn⟩ := Option.isSome_iff_exists.1
    ((edges?_isSome_iff table source goal).2 hdistance.1.leads)
  rw [hn, (hsound n hn).unique hdistance]

/-- Only from a class to itself there is no edge to follow. -/
theorem edges?_eq_zero_iff (table : ClassTable) {source : String} :
    table.edges? source goal = some 0 ↔ source = goal := by
  rw [edges?_eq_some_iff]
  constructor
  · rintro ⟨hpath, -⟩
    cases hpath
    rfl
  · rintro rfl
    exact ⟨.start, fun n _ => Nat.zero_le n⟩

/-- **The distance to a supertype is that of a shortest way.** The search from the name of a type
comes to its end, by meeting the goal or with nothing left. If the erased names of declared
supertypes lead to the goal, the distance is the least number of edges on a way there. If they do
not, a class is half the greatest 64-bit number away from the root of all classes, and there is no
distance to anything else. -/
theorem distance_shortest (table : ClassTable) (ty : Ty) (goal : String) :
    (∀ result, table.Finds goal [] [(ty.qualifiedName, 0)] result ↔
      result = table.edges? ty.qualifiedName goal) ∧
    (Leads table.supertypeNames ty.qualifiedName goal → ∃ edges,
      table.distance? ty goal = some edges ∧
        IsDistance table.supertypeNames ty.qualifiedName goal edges) ∧
    (¬Leads table.supertypeNames ty.qualifiedName goal → table.distance? ty goal =
      if goal = Platform.object ∧ ty.isDeclared = true then some ((UInt64.size - 1) / 2)
      else none) := by
  refine ⟨fun _ => finds_iff table _ goal, fun hleads => ?_, fun hnot => ?_⟩
  · obtain ⟨edges, hedges⟩ := Option.isSome_iff_exists.1 ((edges?_isSome_iff table _ goal).2 hleads)
    exact ⟨edges, by rw [distance?, hedges], edges?_eq_some_iff.1 hedges⟩
  · have hnone : table.edges? ty.qualifiedName goal = none := by
      rw [← Option.not_isSome_iff_eq_none, edges?_isSome_iff]
      exact hnot
    rw [distance?, hnone]
    rfl

/-! ## A harbour -/

namespace Harbour

/-- A ferry is a boat, which is a ship, and it is a ship without the boat too. A ship is a vessel,
and a vessel a ship again. What can be closed is not declared. -/
def classes : ClassTable := .declareAll {} [
  (ClassDecl.plain "port.Vessel").generic ["T"] ["port.Ship"],
  (ClassDecl.plain "port.Ship").generic [] ["port.Vessel < port.Ship>", "java.io.Closeable"],
  (ClassDecl.plain "port.Boat").generic [] ["port.Ship"],
  (ClassDecl.plain "port.Ferry").generic [] ["port.Boat", "port.Ship"]]

/-- A vessel is two edges away from a ferry, and a raft is out of reach, as the root is. -/
theorem distance_shortest_ferry :
    (Leads classes.supertypeNames "port.Ferry" "port.Vessel" ∧
      IsDistance classes.supertypeNames "port.Ferry" "port.Vessel" 2) ∧
    (¬Leads classes.supertypeNames "port.Ferry" "port.Raft" ∧
      classes.distance? (.named "port.Ferry") "port.Raft" = none) ∧
    ¬Leads classes.supertypeNames "port.Ferry" Platform.object ∧
      classes.distance? (.named "port.Ferry") Platform.object = some ((UInt64.size - 1) / 2) := by
  have hvessel : Leads classes.supertypeNames "port.Ferry" "port.Vessel" :=
    (edges?_isSome_iff ..).1 (by decide +kernel)
  have hraft : ¬Leads classes.supertypeNames "port.Ferry" "port.Raft" := fun h =>
    absurd ((edges?_isSome_iff ..).2 h) (by decide +kernel)
  have hroot : ¬Leads classes.supertypeNames "port.Ferry" Platform.object := fun h =>
    absurd ((edges?_isSome_iff ..).2 h) (by decide +kernel)
  have htwo : classes.distance? (.named "port.Ferry") "port.Vessel" = some 2 := by decide +kernel
  obtain ⟨-, hreached, -⟩ := distance_shortest classes (.named "port.Ferry") "port.Vessel"
  obtain ⟨edges, hedges, hdistance⟩ := hreached hvessel
  rw [htwo] at hedges
  cases hedges
  obtain ⟨-, -, hno⟩ := distance_shortest classes (.named "port.Ferry") "port.Raft"
  obtain ⟨-, -, hobject⟩ := distance_shortest classes (.named "port.Ferry") Platform.object
  exact ⟨⟨hvessel, hdistance⟩, ⟨hraft, hno hraft⟩, hroot, hobject hroot⟩

end Harbour

end BeanMapper.ClassTable
