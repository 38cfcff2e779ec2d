import BeanMapper.Proofs.Selection.Inference
import BeanMapper.Proofs.Selection.Meaning
import BeanMapper.Proofs.Type.Agreement
import BeanMapper.Proofs.Type.Distance

/-!
# How near a method is

The choice ranks a method by the way from the source type to the type that the method takes. A
method that takes no source is ranked like one that takes the very class of the source
(`Selector.sourceRank_eq_zero_iff`), and one that takes a type variable is to come after every one
that takes a type. It does so for a class, if every view that the class has is at some distance from
it. But what a value can be passed as is decided by other means than the distance: an array is an
object and an array of objects without being at any distance from them, and such a method comes
after those that take a variable. `Selector.variables_rank_last` is the exact law and
`Labels.not_always_last` the array that breaks the simple one.
-/

namespace BeanMapper

namespace ClassTable

variable {table : ClassTable} {goal : String}

/-! ## Distances -/

/-- The search goes one edge further in a step at most. -/
theorem searchName_depth (farthest : Nat) {fuel depth : Nat} {seen : List String}
    {queue : List (String × Nat)} (hqueue : ∀ entry ∈ queue, entry.2 ≤ farthest)
    (h : table.searchName goal fuel seen queue = some depth) : depth < farthest + fuel := by
  induction fuel generalizing seen queue farthest with
  | zero => cases h
  | succ fuel ih =>
    cases queue with
    | nil => cases h
    | cons entry queue =>
      obtain ⟨name, here⟩ := entry
      obtain ⟨hhere, hrest⟩ := List.forall_mem_cons.1 hqueue
      have hlater : ∀ entry ∈ queue, entry.2 ≤ farthest + 1 := fun entry he =>
        Nat.le_succ_of_le (hrest entry he)
      rw [searchName] at h
      split at h
      · cases h
        omega
      · have hnext : depth < farthest + 1 + fuel := by
          split at h
          · exact ih (farthest + 1) hlater h
          · refine ih (farthest + 1) (fun entry he => ?_) h
            rcases List.mem_append.1 he with he | he
            · exact hlater entry he
            · obtain ⟨supertype, -, rfl⟩ := List.mem_map.1 he
              exact Nat.succ_le_succ hhere
        omega

/-- A path is shorter than the search is long. -/
theorem edges?_lt {source : String} {depth : Nat} (h : table.edges? source goal = some depth) :
    depth < table.searchFuel := by
  have hdepth := searchName_depth 0 (by simp) h
  omega

theorem distance?_eq_zero_iff (table : ClassTable) {source : Ty} :
    table.distance? source goal = some 0 ↔ source.qualifiedName = goal := by
  rw [← edges?_eq_zero_iff table, distance?]
  split
  · rename_i depth hedges
    rw [hedges]
  · rename_i hedges
    rw [hedges]
    refine iff_of_false (fun h => ?_) (Option.some_ne_none 0).symm
    split at h
    · exact absurd h (by decide)
    · cases h

/-- The class of a name is at some distance from a type if names lead there, and the root of all
classes is from every class. -/
theorem distance?_isSome_iff {source : Ty} : (table.distance? source goal).isSome = true ↔
    Leads table.supertypeNames source.qualifiedName goal ∨
      goal = Platform.object ∧ source.isDeclared = true := by
  rw [← edges?_isSome_iff, distance?]
  split
  · rename_i depth hedges
    simp [hedges]
  · rename_i hedges
    rw [hedges]
    split
    · rename_i hroot
      exact iff_of_true rfl (Or.inr hroot)
    · rename_i hroot
      exact iff_of_false Bool.false_ne_true (not_or.2 ⟨Bool.false_ne_true, hroot⟩)

/-- No distance that is known is that of a type variable, in a table with fewer supertypes than
there are distances. -/
theorem distance?_lt {source : Ty} {depth : Nat} (hsize : table.searchFuel ≤ Selector.genericRank)
    (h : table.distance? source goal = some depth) : depth < Selector.genericRank := by
  unfold distance? at h
  split at h
  · rename_i hedges
    cases h
    exact Nat.lt_of_lt_of_le (edges?_lt hedges) hsize
  · split at h
    · cases h
      decide
    · cases h

/-- Every view of a type is at some distance from it. -/
def Graded (table : ClassTable) (ty : Ty) : Prop :=
  ∀ view ∈ table.closure ty, (table.distance? ty view.qualifiedName).isSome = true

theorem Graded.distance?_isSome {name : String} {args : List Ty}
    (h : table.Graded (.declared name args))
    (hview : (table.asSupertype? (.declared name args) goal).isSome = true) :
    (table.distance? (.declared name args) goal).isSome = true := by
  rw [asSupertype?] at hview
  split at hview
  · rename_i hroot
    exact distance?_isSome_iff.2 (Or.inr ⟨hroot.1, rfl⟩)
  · obtain ⟨view, hfound⟩ := Option.isSome_iff_exists.1 hview
    have hname : view.qualifiedName = goal := by simpa using List.find?_some hfound
    exact hname ▸ h view (List.mem_of_find?_eq_some hfound)

/-- If every supertype text denotes the class that it names, every class is at some distance from
its views. -/
theorem graded_of_texts (h : ∀ decl ∈ table.decls, ∀ text ∈ decl.supertypes,
    table.denotesErased text = true) (name : String) (args : List Ty) :
    table.Graded (.declared name args) := by
  have hno : ∀ other, table.NamesNoParameter other := fun other =>
    (consistent_of_texts h other).noParameter other .refl
  intro view hview
  have hleads := (mem_closure_iff args fun other _ => hno other).1 (List.mem_map_of_mem hview)
  rw [readNames_of_texts h] at hleads
  exact distance?_isSome_iff.2 (Or.inl hleads)

end ClassTable

/-! ## What a method takes -/

namespace Candidate

/-- A method takes a bare type variable as its source. -/
def TakesVariable (candidate : Candidate) : Prop :=
  ∃ parameter ∈ candidate.sources.head?, parameter.ty.isTypeVar = true

/-- A method takes something else than a bare type variable as its source. -/
def TakesType (candidate : Candidate) : Prop :=
  ∃ parameter ∈ candidate.sources.head?, parameter.ty.isTypeVar = false

/-- A method takes a class as its source, with or without arguments. -/
def TakesClass (candidate : Candidate) : Prop :=
  ∃ parameter ∈ candidate.sources.head?, parameter.ty.isDeclared = true

/-- A method takes the type of the source itself, with whatever arguments. -/
def TakesItself (source : Ty) (candidate : Candidate) : Prop :=
  ∃ parameter ∈ candidate.sources.head?,
    parameter.ty.isTypeVar = false ∧ parameter.ty.qualifiedName = source.qualifiedName

instance (candidate : Candidate) : Decidable candidate.TakesVariable :=
  inferInstanceAs (Decidable (∃ _ ∈ _, _))

instance (candidate : Candidate) : Decidable candidate.TakesType :=
  inferInstanceAs (Decidable (∃ _ ∈ _, _))

instance (candidate : Candidate) : Decidable candidate.TakesClass :=
  inferInstanceAs (Decidable (∃ _ ∈ _, _))

instance (source : Ty) (candidate : Candidate) : Decidable (candidate.TakesItself source) :=
  inferInstanceAs (Decidable (∃ _ ∈ _, _))

/-- The supertypes of the source lead to the type that a method takes, or this is the root of all
classes and the source is a class. -/
def IsLedTo (table : ClassTable) (source : Ty) (candidate : Candidate) : Prop :=
  ∃ parameter ∈ candidate.sources.head?, parameter.ty.isTypeVar = false ∧
    (ClassTable.Leads table.supertypeNames source.qualifiedName parameter.ty.qualifiedName ∨
      parameter.ty.qualifiedName = Platform.object ∧ source.isDeclared = true)

end Candidate

/-! ## Ranks -/

namespace Selector

variable {table : ClassTable} {source : Ty} {candidate : Candidate}

/-- How far a type that a method takes is from the source type. -/
def typeRank (table : ClassTable) (source ty : Ty) : Nat :=
  if ty.isTypeVar then genericRank
  else (table.distance? source ty.qualifiedName).getD unrelatedRank

theorem typeRank_eq_zero_iff {ty : Ty} : typeRank table source ty = 0 ↔
    ty.isTypeVar = false ∧ ty.qualifiedName = source.qualifiedName := by
  unfold typeRank
  cases ty.isTypeVar with
  | true => simp [genericRank]
  | false =>
    rw [if_neg Bool.false_ne_true, eq_self_iff_true, true_and, eq_comm (b := source.qualifiedName),
      ← ClassTable.distance?_eq_zero_iff table]
    cases table.distance? source ty.qualifiedName with
    | none => simp [unrelatedRank]
    | some depth => simp

theorem typeRank_lt_iff (hsize : table.searchFuel ≤ genericRank) {ty : Ty} :
    typeRank table source ty < genericRank ↔ ty.isTypeVar = false ∧
      (ClassTable.Leads table.supertypeNames source.qualifiedName ty.qualifiedName ∨
        ty.qualifiedName = Platform.object ∧ source.isDeclared = true) := by
  rw [← ClassTable.distance?_isSome_iff]
  unfold typeRank
  cases ty.isTypeVar with
  | true => simp
  | false =>
    rw [if_neg Bool.false_ne_true, eq_self_iff_true, true_and]
    cases hdistance : table.distance? source ty.qualifiedName with
    | none => simp [unrelatedRank, genericRank]
    | some depth => simpa using ClassTable.distance?_lt hsize hdistance

/-- The rank of a method is that of the type that it takes, or zero. -/
theorem sourceRank_eq : sourceRank table source candidate =
    (candidate.sources.head?.map fun parameter => typeRank table source parameter.ty).getD 0 := by
  unfold sourceRank
  cases candidate.sources with
  | nil => rfl
  | cons parameter rest => rfl

theorem sourceRank_iff {p : Nat → Prop} (hzero : p 0) :
    p (sourceRank table source candidate) ↔ candidate.sources = [] ∨
      ∃ parameter ∈ candidate.sources.head?, p (typeRank table source parameter.ty) := by
  rw [sourceRank_eq]
  cases candidate.sources with
  | nil => simpa using hzero
  | cons parameter rest => simp

/-- A method that takes no source is as near as one that takes the type of the source itself, and
nothing is nearer. -/
theorem sourceRank_eq_zero_iff : sourceRank table source candidate = 0 ↔
    candidate.sources = [] ∨ candidate.TakesItself source := by
  rw [sourceRank_iff (p := (· = 0)) rfl]
  simp only [typeRank_eq_zero_iff, Candidate.TakesItself]

/-- What comes before the methods that take a variable. -/
theorem sourceRank_lt_genericRank_iff (hsize : table.searchFuel ≤ genericRank) :
    sourceRank table source candidate < genericRank ↔
      candidate.sources = [] ∨ candidate.IsLedTo table source := by
  rw [sourceRank_iff (p := (· < genericRank)) (by decide)]
  simp only [typeRank_lt_iff hsize, Candidate.IsLedTo]

theorem sourceRank_of_takesVariable (h : candidate.TakesVariable) :
    sourceRank table source candidate = genericRank := by
  obtain ⟨parameter, hhead, hvariable⟩ := h
  rw [sourceRank_eq, Option.mem_def.1 hhead, Option.map_some, Option.getD_some, typeRank,
    if_pos hvariable]

end Selector

/-! ## What is accepted -/

namespace Matching

variable {request : Request} {vars : List String} {bindings rest : Ty.Bindings}

/-- Where all parameters are bound, each source parameter accepts the source. -/
theorem exists_accepts {parameters : List Parameter} {bound : List Binding} {parameter : Parameter}
    {source : Ty} (h : bindParameters request vars bindings parameters = some (bound, rest))
    (hsource : request.source = some source) (hmem : parameter ∈ parameters)
    (hrole : parameter.role = .source) :
    ∃ before after, accepts request.table vars before parameter.ty source = some after := by
  induction parameters generalizing bindings bound rest with
  | nil => cases hmem
  | cons first parameters ih =>
    obtain ⟨value, between, others, hfirst, hothers, -⟩ := bindParameters_cons h
    rcases List.mem_cons.1 hmem with rfl | hmem
    · cases hfirst with
      | source _ hs haccepts =>
        cases hs.symm.trans hsource
        exact ⟨bindings, between, haccepts⟩
      | _ hother => cases hother.symm.trans hrole
    · exact ih hothers hmem

/-- A class that accepts a class is at some distance from it, if every view is. -/
theorem distance?_of_accepts {table : ClassTable} {formal : Ty} {name : String} {args : List Ty}
    (hgraded : table.Graded (.declared name args)) (hformal : formal.isDeclared = true)
    (h : accepts table vars bindings formal (.declared name args) = some rest) :
    (table.distance? (.declared name args) formal.qualifiedName).isSome = true := by
  obtain ⟨goal, expected, rfl⟩ : ∃ goal expected, formal = .declared goal expected := by
    cases formal with
    | declared goal expected => exact ⟨goal, expected, rfl⟩
    | _ => cases hformal
  have hcases := accepts_cases h
  rw [ClassTable.substitute_declared] at hcases
  rcases hcases with ⟨hvar, -⟩ | ⟨-, -, hfits⟩ | ⟨_, _, harray, -⟩ | ⟨-, -, view, hview, -⟩
  · cases hvar
  · rw [ClassTable.isAssignable] at hfits
    split at hfits
    · rename_i hsame
      cases hsame
      rw [ClassTable.distance?_isSome_iff]
      exact Or.inl .refl
    · split at hfits
      · rename_i hroot
        exact ClassTable.distance?_isSome_iff.2 (Or.inr ⟨hroot, rfl⟩)
      · split at hfits
        · cases hfits
        · rename_i view hview
          exact hgraded.distance?_isSome (Option.isSome_of_eq_some hview)
  · cases harray
  · exact hgraded.distance?_isSome (Option.isSome_of_eq_some hview)

end Matching

/-- A method that takes a class answers for a class that its supertypes lead to it, if every view
of that is at some distance. -/
theorem Selected.Eligible.isLedTo {request : Request} {candidates : List Candidate} {t : Selected}
    {source : Ty} (h : t.Eligible request candidates) (hsource : request.source = some source)
    (hclass : source.isDeclared = true) (hgraded : request.table.Graded source)
    (htakes : t.candidate.TakesClass) : t.candidate.IsLedTo request.table source := by
  obtain ⟨parameter, hhead, hparameter⟩ := htakes
  obtain ⟨bindings, hbound, -⟩ := Matching.bind?_eq_some h.bound
  obtain ⟨hmem, hrole⟩ := List.mem_filter.1 (List.mem_of_mem_head? hhead)
  obtain ⟨before, after, haccepts⟩ :=
    Matching.exists_accepts hbound hsource hmem (of_decide_eq_true hrole)
  obtain ⟨name, args, rfl⟩ : ∃ name args, source = .declared name args := by
    cases source with
    | declared name args => exact ⟨name, args, rfl⟩
    | _ => cases hclass
  have hdistance := Matching.distance?_of_accepts hgraded hparameter haccepts
  have htype : parameter.ty.isTypeVar = false := by
    cases hty : parameter.ty with
    | typeVar name => rw [hty] at hparameter; cases hparameter
    | _ => rfl
  exact ⟨parameter, hhead, htype, ClassTable.distance?_isSome_iff.1 hdistance⟩

/-! ## Variables last -/

/-- **Methods that take a variable come last, if something else is near.** Of methods that answer a
request with a source, none that takes a bare type variable is left exactly if there is none, or one
takes no source, or the supertypes of the source lead to what one takes. For a class that is at some
distance from all its views, it is enough that one takes a class. -/
theorem Selector.variables_rank_last {request : Request} {candidates : List Candidate}
    {selected : List Selected} {source : Ty} (hsize : request.table.searchFuel ≤ genericRank)
    (hsource : request.source = some source)
    (hcallback : request.criteria.required.isCallback = false)
    (hpassed : ∀ s ∈ selected, s.Eligible request candidates) :
    ((∀ s ∈ inheritance.apply request selected, ¬s.candidate.TakesVariable) ↔
        (∀ s ∈ selected, ¬s.candidate.TakesVariable) ∨
          ∃ t ∈ selected, t.candidate.sources = [] ∨
            t.candidate.IsLedTo request.table source) ∧
      (source.isDeclared = true → request.table.Graded source →
        (∃ t ∈ selected, t.candidate.TakesClass) →
          ∀ s ∈ inheritance.apply request selected, ¬s.candidate.TakesVariable) := by
  have hkept : ∀ s, s ∈ inheritance.apply request selected ↔ s ∈ selected ∧
      ∀ t ∈ selected, sourceRank request.table source s.candidate ≤
        sourceRank request.table source t.candidate := by
    intro s
    rw [mem_apply_inheritance_iff]
    simp [hcallback, hsource]
  -- whatever is nearer than a variable leaves none of them
  have hnear : ∀ t ∈ selected, t.candidate.sources = [] ∨ t.candidate.IsLedTo request.table source →
      ∀ s ∈ inheritance.apply request selected, ¬s.candidate.TakesVariable := by
    intro t ht hled s hs hvariable
    have hlt := (sourceRank_lt_genericRank_iff hsize).2 hled
    have hle := ((hkept s).1 hs).2 t ht
    rw [sourceRank_of_takesVariable hvariable] at hle
    exact Nat.not_le_of_lt hlt hle
  refine ⟨⟨fun hlast => ?_, ?_⟩, ?_⟩
  · by_contra hneither
    obtain ⟨hsome, hfar⟩ := not_or.1 hneither
    push Not at hsome
    obtain ⟨s, hs, hvariable⟩ := hsome
    refine hlast s ((hkept s).2 ⟨hs, fun t ht => ?_⟩) hvariable
    rw [sourceRank_of_takesVariable hvariable]
    by_contra hlt
    exact hfar ⟨t, ht, (sourceRank_lt_genericRank_iff hsize).1 (Nat.lt_of_not_le hlt)⟩
  · rintro (hnone | ⟨t, ht, hled⟩)
    · exact fun s hs => hnone s ((hkept s).1 hs).1
    · exact hnear t ht hled
  · rintro hclass hgraded ⟨t, ht, htakes⟩
    exact hnear t ht (Or.inr ((hpassed t ht).isLedTo hsource hclass hgraded htakes))

/-! ## Labels -/

namespace Labels

def classes : ClassTable := .declareAll {} [
  .plain "print.Note", (ClassDecl.plain "print.Memo").generic [] ["print.Note"]]

def printing (name : String) (typeParameters : List String) (ty : Ty) : Candidate where
  name
  parameters := [{ name := "printed", ty }]
  returnType := .named "java.lang.String"
  typeParameters
  owner := some (.named "print.LabelMapper")

def ofNote : Candidate := printing "ofNote" [] (.named "print.Note")

def ofObject : Candidate := printing "ofObject" [] .object

def ofAny : Candidate := printing "ofAny" ["T"] (.typeVar "T")

def request (source : Ty) : Request where
  table := classes
  criteria := .mapping
  source := some source
  target := .named "java.lang.String"

/-- What can print memos, a method for notes first. -/
def ofMemos : List Selected := (request (.named "print.Memo")).eligible [ofNote, ofAny]

def texts : Ty := .array (.named "java.lang.String")

/-- What can print an array of texts, a method for objects first. -/
def ofTexts : List Selected := (request texts).eligible [ofObject, ofAny]

/-- A memo is printed as the note that it is. -/
theorem variables_rank_last_memos :
    classes.searchFuel ≤ Selector.genericRank ∧ classes.Graded (.named "print.Memo") ∧
      (∃ t ∈ ofMemos, t.candidate.TakesClass) ∧ (∃ s ∈ ofMemos, s.candidate.TakesVariable) ∧
      ∀ s ∈ Selector.inheritance.apply (request (.named "print.Memo")) ofMemos,
        ¬s.candidate.TakesVariable := by
  have hsize : classes.searchFuel ≤ Selector.genericRank := by decide +kernel
  have hgraded : classes.Graded (.named "print.Memo") :=
    ClassTable.graded_of_texts (by decide +kernel) "print.Memo" []
  have hclass : ∃ t ∈ ofMemos, t.candidate.TakesClass := by decide +kernel
  have hvariable : ∃ s ∈ ofMemos, s.candidate.TakesVariable := by decide +kernel
  have hpassed : ∀ s ∈ ofMemos, s.Eligible (request (.named "print.Memo")) [ofNote, ofAny] :=
    fun s hs => Request.mem_eligible_iff.1 hs
  have hlast := Selector.variables_rank_last hsize rfl rfl hpassed
  exact ⟨hsize, hgraded, hclass, hvariable, hlast.2 rfl hgraded hclass⟩

/-- An array can be printed as an object and as anything, and what prints anything is left. -/
theorem not_always_last : ¬∀ (request : Request) (candidates : List Candidate)
    (selected : List Selected) (source : Ty), request.source = some source →
      request.criteria.required.isCallback = false →
      (∀ s ∈ selected, s.Eligible request candidates) →
      (∃ t ∈ selected, t.candidate.TakesType) →
        ∀ s ∈ Selector.inheritance.apply request selected, ¬s.candidate.TakesVariable := by
  intro hall
  have htyped : ∃ t ∈ ofTexts, t.candidate.TakesType := by decide +kernel
  have hkept : ∃ s ∈ Selector.inheritance.apply (request texts) ofTexts,
      s.candidate.TakesVariable := by decide +kernel
  obtain ⟨s, hs, hvariable⟩ := hkept
  exact hall (request texts) [ofObject, ofAny] ofTexts texts rfl rfl
    (fun s hs => Request.mem_eligible_iff.1 hs) htyped s hs hvariable

end Labels

end BeanMapper
