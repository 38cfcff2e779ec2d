import BeanMapper.Proofs.Type.Reachability
import Mathlib.Order.Bounds.Basic

/-!
# The order of the closure

The search for supertypes is described without a bound on its length: it goes on until nothing is
left in its queue (`Enumerates`). It always comes to that end, because it expands each class once,
however the types grow on the way; the closure is what it lists, each class once and the type
itself first.

If no class names one of its own parameters as a supertype, the search is breadth-first in the
strict sense. Every entry that waits is given the number of edges along which it was reached; these
numbers never fall from one entry to the next and differ by one at most (`Layered`), so a class
that is met for the first time has been reached along a shortest way. `closure_enumerates` puts all
of this together.
-/

namespace BeanMapper.ClassTable

variable {table : ClassTable} {seen : List String} {queue out : List Ty} {source : String}

/-! ## The search to its end -/

/-- A search that has expanded some classes and goes on until its queue is empty lists these types.
What is no class or has been expanded is passed over. -/
inductive Enumerates (table : ClassTable) : List String → List Ty → List Ty → Prop
  | done (seen : List String) : Enumerates table seen [] []
  | skip {seen : List String} {ty : Ty} {queue out : List Ty}
    (hold : ty.isDeclared = true → ty.qualifiedName ∈ seen) (h : Enumerates table seen queue out) :
    Enumerates table seen (ty :: queue) out
  | expand {seen : List String} {name : String} {args queue out : List Ty} (hnew : name ∉ seen)
    (h : Enumerates table (name :: seen) (queue ++ table.supertypes name args) out) :
    Enumerates table seen (.declared name args :: queue) (.declared name args :: out)

/-- A search lists one thing only. -/
theorem Enumerates.unique (h : table.Enumerates seen queue out) {other : List Ty}
    (h' : table.Enumerates seen queue other) : other = out := by
  induction h generalizing other with
  | done => cases h'; rfl
  | skip hold _ ih =>
    cases h' with
    | skip _ h' => exact ih h'
    | expand hnew _ => exact absurd (hold rfl) hnew
  | expand hnew _ ih =>
    cases h' with
    | skip hold _ => exact absurd (hold rfl) hnew
    | expand _ h' => rw [ih h']

/-- With fuel for what waits and for all supertypes of classes not yet expanded, the search comes to
its end. -/
theorem closureFrom_enumerates {fuel : Nat} (hfuel : queue.length + table.pending seen < fuel) :
    table.Enumerates seen queue (table.closureFrom fuel seen queue) := by
  induction fuel generalizing seen queue with
  | zero => omega
  | succ fuel ih =>
    cases queue with
    | nil => exact .done seen
    | cons ty queue =>
      rw [List.length_cons] at hfuel
      have hrest : queue.length + table.pending seen < fuel := by omega
      cases hclass : ty.isDeclared with
      | false =>
        rw [closureFrom_skip hclass]
        refine .skip (fun h => ?_) (ih hrest)
        rw [hclass] at h
        cases h
      | true =>
        cases ty with
        | declared name args =>
          rw [closureFrom]
          split
          · rename_i hold
            exact .skip (fun _ => hold) (ih hrest)
          · rename_i hnew
            refine .expand hnew (ih ?_)
            have hsupertypes := supertypes_pending table args hnew
            rw [List.length_append]
            omega
        | _ => cases hclass

theorem enumerates_iff (table : ClassTable) (ty : Ty) :
    table.Enumerates [] [ty] out ↔ out = table.closure ty := by
  have hclosure : table.Enumerates [] [ty] (table.closure ty) :=
    closureFrom_enumerates (by rw [searchFuel_eq, List.length_singleton]; omega)
  constructor
  · exact hclosure.unique
  · rintro rfl
    exact hclosure

/-- No class is listed twice, and none that was expanded before. -/
theorem Enumerates.nodup (h : table.Enumerates seen queue out) :
    (out.map Ty.qualifiedName).Nodup ∧ ∀ name ∈ seen, name ∉ out.map Ty.qualifiedName := by
  induction h with
  | done => simp
  | skip _ _ ih => exact ih
  | @expand seen name args queue out hnew _ ih =>
    obtain ⟨hnodup, hfresh⟩ := ih
    constructor
    · exact List.nodup_cons.2 ⟨hfresh name List.mem_cons_self, hnodup⟩
    · intro other hother hmem
      rcases List.mem_cons.1 hmem with rfl | hmem
      · exact hnew hother
      · exact hfresh other (List.mem_cons_of_mem _ hother) hmem

/-- A class comes first among its supertypes. -/
theorem head?_closure {ty : Ty} (h : ty.isDeclared = true) :
    (table.closure ty).head? = some ty := by
  cases ty with
  | declared name args => rw [closure, searchFuel, closureFrom, if_neg List.not_mem_nil]; rfl
  | _ => cases h

/-! ## Numbers of edges -/

/-- So many steps lead from a name to another, each to a name that `next` gives. -/
inductive LeadsIn (next : String → List String) (source : String) : Nat → String → Prop
  | start : LeadsIn next source 0 source
  | step {edges : Nat} {name other : String} (h : LeadsIn next source edges name)
    (hnext : other ∈ next name) : LeadsIn next source (edges + 1) other

theorem LeadsIn.leads {next : String → List String} {edges : Nat} {goal : String}
    (h : LeadsIn next source edges goal) : Leads next source goal := by
  induction h with
  | start => exact .refl
  | step _ hnext ih => exact ih.tail hnext

/-- The least number of edges that lead from a name to another. -/
def IsDistance (next : String → List String) (source goal : String) (edges : Nat) : Prop :=
  IsLeast {n | LeadsIn next source n goal} edges

/-! ## Layers -/

/-- A name has been expanded or waits, reached along so many edges at most. -/
def Met (expanded : List (String × Nat)) (waiting : List (Ty × Nat)) (name : String)
    (edges : Nat) : Prop :=
  (∃ n ≤ edges, (name, n) ∈ expanded) ∨
    ∃ entry ∈ waiting, entry.1.isDeclared = true ∧ entry.1.qualifiedName = name ∧ entry.2 ≤ edges

/-- How a search from a class stands: what it has expanded and what waits, each with the number of
edges along which it was reached. -/
structure Layered (table : ClassTable) (source : String) (expanded : List (String × Nat))
    (waiting : List (Ty × Nat)) : Prop where
  reached : ∀ entry ∈ waiting, entry.1.isDeclared = true →
    LeadsIn table.readNames source entry.2 entry.1.qualifiedName
  sorted : waiting.Pairwise fun entry later => entry.2 ≤ later.2
  narrow : ∀ entry ∈ waiting, ∀ other ∈ waiting, other.2 ≤ entry.2 + 1
  behind : ∀ done ∈ expanded, ∀ entry ∈ waiting, done.2 ≤ entry.2
  starts : Met expanded waiting source 0
  follows : ∀ done ∈ expanded, ∀ name ∈ table.readNames done.1,
    Met expanded waiting name (done.2 + 1)

namespace Layered

variable {expanded : List (String × Nat)} {waiting : List (Ty × Nat)} {ty : Ty} {name : String}
  {args : List Ty} {edges : Nat}

/-- At the start the class itself waits. -/
theorem start (table : ClassTable) (name : String) (args : List Ty) :
    table.Layered name [] [(.declared name args, 0)] where
  reached entry hentry _ := by
    rw [List.mem_singleton.1 hentry]
    exact .start
  sorted := List.pairwise_singleton _ _
  narrow := by simp
  behind := by simp
  starts := Or.inr ⟨_, List.mem_singleton_self _, rfl, rfl, Nat.le_refl 0⟩
  follows := by simp

/-- What was met is still met when the first entry leaves, if that has been expanded. -/
theorem met_tail {other : String} {n : Nat}
    (hdone : ty.isDeclared = true → ∃ m ≤ edges, (ty.qualifiedName, m) ∈ expanded)
    (h : Met expanded ((ty, edges) :: waiting) other n) : Met expanded waiting other n := by
  rcases h with h | ⟨entry, hentry, hclass, hname, hle⟩
  · exact Or.inl h
  · rcases List.mem_cons.1 hentry with rfl | hentry
    · obtain ⟨m, hm, hmem⟩ := hdone hclass
      exact Or.inl ⟨m, Nat.le_trans hm hle, hname ▸ hmem⟩
    · exact Or.inr ⟨entry, hentry, hclass, hname, hle⟩

theorem met_mono {expanded' : List (String × Nat)} {waiting' : List (Ty × Nat)} {other : String}
    {n : Nat} (hexpanded : expanded ⊆ expanded') (hwaiting : waiting ⊆ waiting')
    (h : Met expanded waiting other n) : Met expanded' waiting' other n := by
  rcases h with ⟨m, hle, hmem⟩ | ⟨entry, hentry, h⟩
  · exact Or.inl ⟨m, hle, hexpanded hmem⟩
  · exact Or.inr ⟨entry, hwaiting hentry, h⟩

/-- The first entry is passed over. -/
theorem skip (h : table.Layered source expanded ((ty, edges) :: waiting))
    (hold : ty.isDeclared = true → ty.qualifiedName ∈ expanded.map Prod.fst) :
    table.Layered source expanded waiting := by
  have hdone : ty.isDeclared = true → ∃ m ≤ edges, (ty.qualifiedName, m) ∈ expanded := by
    intro hclass
    obtain ⟨⟨name, m⟩, hmem, hname⟩ := List.mem_map.1 (hold hclass)
    exact ⟨m, h.behind _ hmem _ List.mem_cons_self, hname ▸ hmem⟩
  exact {
    reached := fun entry hentry => h.reached entry (List.mem_cons_of_mem _ hentry)
    sorted := (List.pairwise_cons.1 h.sorted).2
    narrow := fun entry hentry other hother =>
      h.narrow entry (List.mem_cons_of_mem _ hentry) other (List.mem_cons_of_mem _ hother)
    behind := fun done hmem entry hentry =>
      h.behind done hmem entry (List.mem_cons_of_mem _ hentry)
    starts := met_tail hdone h.starts
    follows := fun done hmem name hname => met_tail hdone (h.follows done hmem name hname) }

/-- The first entry is expanded: its supertypes come to the end of the queue, one edge further. -/
theorem expand (h : table.Layered source expanded ((.declared name args, edges) :: waiting))
    (hno : table.NamesNoParameter name) :
    table.Layered source ((name, edges) :: expanded)
      (waiting ++ (table.supertypes name args).map fun ty => (ty, edges + 1)) := by
  have hhere : LeadsIn table.readNames source edges name := h.reached _ List.mem_cons_self rfl
  have hlater : ∀ entry ∈ waiting, edges ≤ entry.2 ∧ entry.2 ≤ edges + 1 := fun entry hentry =>
    ⟨(List.pairwise_cons.1 h.sorted).1 entry hentry,
      h.narrow _ List.mem_cons_self entry (List.mem_cons_of_mem _ hentry)⟩
  -- everything that waits now is as far as the class that leaves, or one edge further
  have hnear : ∀ entry ∈ waiting ++ (table.supertypes name args).map fun ty => (ty, edges + 1),
      edges ≤ entry.2 ∧ entry.2 ≤ edges + 1 := by
    intro entry hentry
    rcases List.mem_append.1 hentry with hentry | hentry
    · exact hlater entry hentry
    · obtain ⟨ty, -, rfl⟩ := List.mem_map.1 hentry
      exact ⟨Nat.le_succ edges, Nat.le_refl _⟩
  have hkept : ∀ {other n}, Met expanded ((.declared name args, edges) :: waiting) other n →
      Met ((name, edges) :: expanded)
        (waiting ++ (table.supertypes name args).map fun ty => (ty, edges + 1)) other n := by
    intro other n hmet
    have hmet := met_tail (fun _ => ⟨edges, Nat.le_refl _, List.mem_cons_self⟩)
      (met_mono (List.subset_cons_self (name, edges) expanded) (List.Subset.refl _) hmet)
    exact met_mono (List.Subset.refl _) (List.subset_append_left _ _) hmet
  refine { reached := ?_, sorted := ?_, narrow := ?_, behind := ?_, starts := hkept h.starts,
           follows := ?_ }
  · intro entry hentry hclass
    rcases List.mem_append.1 hentry with hentry | hentry
    · exact h.reached entry (List.mem_cons_of_mem _ hentry) hclass
    · obtain ⟨ty, hty, rfl⟩ := List.mem_map.1 hentry
      exact hhere.step ((mem_readNames hno args).2 ⟨ty, hty, hclass, rfl⟩)
  · refine List.pairwise_append.2 ⟨(List.pairwise_cons.1 h.sorted).2, ?_, ?_⟩
    · exact List.pairwise_map.2 (List.pairwise_of_forall fun _ _ => Nat.le_refl _)
    · intro entry hentry added hadded
      obtain ⟨ty, -, rfl⟩ := List.mem_map.1 hadded
      exact (hlater entry hentry).2
  · intro entry hentry other hother
    have hentry := hnear entry hentry
    have hother := hnear other hother
    omega
  · intro done hdone entry hentry
    rcases List.mem_cons.1 hdone with rfl | hdone
    · exact (hnear entry hentry).1
    · exact Nat.le_trans (h.behind done hdone _ List.mem_cons_self) (hnear entry hentry).1
  · intro done hdone other hother
    rcases List.mem_cons.1 hdone with rfl | hdone
    · obtain ⟨ty, hty, hclass, hname⟩ := (mem_readNames hno args).1 hother
      exact Or.inr ⟨(ty, edges + 1), List.mem_append_right _ (List.mem_map_of_mem hty), hclass,
        hname, Nat.le_refl _⟩
    · exact hkept (h.follows done hdone other hother)

/-- Along any way from the source, the search has either come to its end or waits at some entry that
is no further than the way is long. -/
theorem reach (h : table.Layered source expanded waiting)
    (hpath : LeadsIn table.readNames source edges name) :
    (∃ n ≤ edges, (name, n) ∈ expanded) ∨ ∃ entry ∈ waiting, entry.2 ≤ edges := by
  have hmet : ∀ {other n}, Met expanded waiting other n →
      (∃ m ≤ n, (other, m) ∈ expanded) ∨ ∃ entry ∈ waiting, entry.2 ≤ n := by
    rintro other n (hdone | ⟨entry, hentry, -, -, hle⟩)
    · exact Or.inl hdone
    · exact Or.inr ⟨entry, hentry, hle⟩
  induction hpath with
  | start => exact hmet h.starts
  | @step edges middle last _ hnext ih =>
    rcases ih with ⟨n, hle, hmem⟩ | ⟨entry, hentry, hle⟩
    · rcases hmet (h.follows _ hmem last hnext) with ⟨m, hm, hlast⟩ | ⟨entry, hentry, hm⟩
      · exact Or.inl ⟨m, Nat.le_trans hm (Nat.succ_le_succ hle), hlast⟩
      · exact Or.inr ⟨entry, hentry, Nat.le_trans hm (Nat.succ_le_succ hle)⟩
    · exact Or.inr ⟨entry, hentry, Nat.le_succ_of_le hle⟩

/-- A class that is met for the first time has been reached along a shortest way. -/
theorem isDistance (h : table.Layered source expanded ((.declared name args, edges) :: waiting))
    (hnew : name ∉ expanded.map Prod.fst) : IsDistance table.readNames source name edges := by
  refine ⟨h.reached _ List.mem_cons_self rfl, fun n hpath => ?_⟩
  rcases h.reach hpath with ⟨m, -, hmem⟩ | ⟨entry, hentry, hle⟩
  · exact absurd (List.mem_map_of_mem hmem) hnew
  · rcases List.mem_cons.1 hentry with rfl | hentry
    · exact hle
    · exact Nat.le_trans ((List.pairwise_cons.1 h.sorted).1 entry hentry) hle

end Layered

/-- A layered search lists classes by their distance from its source, and none that is nearer than
all that waits. -/
theorem Enumerates.sorted (h : table.Enumerates seen queue out)
    (hno : ∀ other, Leads table.readNames source other → table.NamesNoParameter other)
    {expanded : List (String × Nat)} {waiting : List (Ty × Nat)}
    (hexpanded : expanded.map Prod.fst = seen) (hwaiting : waiting.map Prod.fst = queue)
    (hlayered : table.Layered source expanded waiting) :
    ∃ distances : List Nat, distances.Pairwise (· ≤ ·) ∧
      List.Forall₂ (IsDistance table.readNames source) (out.map Ty.qualifiedName) distances ∧
      ∀ least, (∀ entry ∈ waiting, least ≤ entry.2) → ∀ n ∈ distances, least ≤ n := by
  induction h generalizing expanded waiting with
  | done => exact ⟨[], .nil, .nil, by simp⟩
  | skip hold _ ih =>
    obtain ⟨⟨ty, edges⟩, waiting, rfl, rfl, rfl⟩ := List.map_eq_cons_iff.1 hwaiting
    subst hexpanded
    obtain ⟨distances, hsorted, hdistances, hleast⟩ := ih rfl rfl (hlayered.skip hold)
    refine ⟨distances, hsorted, hdistances, fun least hwaits => hleast least fun entry hentry => ?_⟩
    exact hwaits entry (List.mem_cons_of_mem _ hentry)
  | @expand seen name args queue out hnew _ ih =>
    obtain ⟨⟨ty, edges⟩, waiting, rfl, rfl, rfl⟩ := List.map_eq_cons_iff.1 hwaiting
    subst hexpanded
    have hdistance := hlayered.isDistance hnew
    have hnext := hlayered.expand (hno name hdistance.1.leads)
    have hqueue : (waiting ++ (table.supertypes name args).map fun ty => (ty, edges + 1)).map
        Prod.fst = waiting.map Prod.fst ++ table.supertypes name args := by
      rw [List.map_append, List.map_map]
      exact congrArg _ (List.map_id _)
    obtain ⟨distances, hsorted, hdistances, hleast⟩ := ih rfl hqueue hnext
    -- nothing that is listed later is nearer than the class that leaves the queue
    have hfurther : ∀ n ∈ distances, edges ≤ n :=
      hleast edges (hnext.behind (name, edges) List.mem_cons_self)
    refine ⟨edges :: distances, .cons hfurther hsorted, .cons hdistance hdistances,
      fun least hwaits n hn => ?_⟩
    have hhere : least ≤ edges := hwaits _ List.mem_cons_self
    rcases List.mem_cons.1 hn with rfl | hn
    · exact hhere
    · exact Nat.le_trans hhere (hfurther n hn)

/-- In a table with uniform supertypes no class names a parameter as a supertype. -/
theorem SupertypesUniform.namesNoParameter (hU : table.SupertypesUniform) (name : String) :
    table.NamesNoParameter name := by
  intro decl hd parameter _ hmem
  cases (hU name decl hd _ hmem).2.1

/-- **The closure is a complete breadth-first enumeration.** The search for the supertypes of a type
comes to its end, and the closure is what it lists. A class comes first in its closure, and no class
comes twice. If no class on the way names a parameter of its own as a supertype, the classes are
those that the supertypes, as they are read, lead to, sorted by their distance from the first. -/
theorem closure_enumerates (table : ClassTable) (ty : Ty) :
    (∀ out, table.Enumerates [] [ty] out ↔ out = table.closure ty) ∧
    (ty.isDeclared = true →
      (table.closure ty).head? = some ty ∧ ((table.closure ty).map Ty.qualifiedName).Nodup ∧
      ((∀ name, Leads table.readNames ty.qualifiedName name → table.NamesNoParameter name) →
        (∀ name, name ∈ (table.closure ty).map Ty.qualifiedName ↔
          Leads table.readNames ty.qualifiedName name) ∧
        ∃ distances : List Nat, distances.Pairwise (· ≤ ·) ∧
          List.Forall₂ (IsDistance table.readNames ty.qualifiedName)
            ((table.closure ty).map Ty.qualifiedName) distances)) := by
  refine ⟨fun out => enumerates_iff table ty,
    fun hclass => ⟨head?_closure hclass, ?_, fun hno => ?_⟩⟩
  · exact ((enumerates_iff table ty).2 rfl).nodup.1
  · cases ty with
    | declared name args =>
      refine ⟨fun goal => mem_closure_iff args hno, ?_⟩
      obtain ⟨distances, hsorted, hdistances, -⟩ :=
        ((enumerates_iff table (.declared name args)).2 rfl).sorted hno rfl rfl
          (Layered.start table name args)
      exact ⟨distances, hsorted, hdistances⟩
    | _ => cases hclass

/-! ## Nested shells -/

namespace Shells

/-- A shell is a case of shells and a case a shell of cases, and both have a lid. One text cannot be
read. -/
def classes : ClassTable := .declareAll {} [
  .plain Platform.string,
  .plain "toy.Part",
  (ClassDecl.plain "toy.Lid").generic [] ["toy.Part"],
  (ClassDecl.plain "toy.Case").generic ["T"]
    ["toy.Case<T>", "toy.Lid<", "toy.Shell<toy.Case<T>>", "toy.Part", "toy.Lid"],
  (ClassDecl.plain "toy.Shell").generic ["T"] ["toy.Case<toy.Shell<T>>", "toy.Lid"]]

def shell : Ty := .declared "toy.Shell" [.string]

/-- The types grow without end, but each class is listed once; a part is two edges away, whichever
way is taken. -/
theorem closure_enumerates_shell :
    (∀ name, classes.NamesNoParameter name) ∧
    classes.Enumerates [] [shell] [shell, .declared "toy.Case" [shell], .named "toy.Lid",
      .named "toy.Part"] ∧
    (∀ name, name ∈ ["toy.Shell", "toy.Case", "toy.Lid", "toy.Part"] ↔
      Leads classes.readNames "toy.Shell" name) ∧
    ∃ distances : List Nat, distances.Pairwise (· ≤ ·) ∧
      List.Forall₂ (IsDistance classes.readNames "toy.Shell")
        ["toy.Shell", "toy.Case", "toy.Lid", "toy.Part"] distances := by
  have hU : classes.SupertypesUniform := by decide +kernel
  have hlisted : classes.closure shell = [shell, .declared "toy.Case" [shell], .named "toy.Lid",
      .named "toy.Part"] := by decide +kernel
  obtain ⟨hends, hclass⟩ := closure_enumerates classes shell
  obtain ⟨-, -, hclasses⟩ := hclass rfl
  have hclasses := hclasses fun name _ => hU.namesNoParameter name
  rw [hlisted] at hends hclasses
  exact ⟨hU.namesNoParameter, (hends _).2 rfl, hclasses⟩

end Shells

end BeanMapper.ClassTable
