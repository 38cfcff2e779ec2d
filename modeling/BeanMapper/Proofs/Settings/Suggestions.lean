import BeanMapper.Proofs.Text.Edits
import BeanMapper.Proofs.Text.Parts
import BeanMapper.Settings.Warning

/-!
# Suggested keys

For an unknown key the known key of its section is suggested that takes the fewest edits, the first
of them where several do, if it takes at most three (`suggest_eq_some_iff`). The sections of dotted
keys are written down as forms of a key (`InSection`), and the choice as a place in the list of
known keys (`IsFirstLeast`).
-/

namespace BeanMapper.Settings

/-! ## The first of the least -/

/-- An element of the list with the least value, where those before it have greater ones. -/
def IsFirstLeast {α : Type} (value : α → Nat) (list : List α) (x : α) : Prop :=
  ∃ before after, list = before ++ x :: after ∧ (∀ y ∈ before, value x < value y) ∧
    ∀ y ∈ after, value x ≤ value y

section FirstLeast

variable {α β : Type} {value : α → Nat} {list : List α} {x y : α}

theorem IsFirstLeast.le (h : IsFirstLeast value list x) (hy : y ∈ list) : value x ≤ value y := by
  obtain ⟨before, after, rfl, hbefore, hafter⟩ := h
  rcases List.mem_append.1 hy with hy | hy
  · exact Nat.le_of_lt (hbefore y hy)
  · rcases List.mem_cons.1 hy with rfl | hy
    · exact Nat.le_refl _
    · exact hafter y hy

theorem IsFirstLeast.mem (h : IsFirstLeast value list x) : x ∈ list := by
  obtain ⟨before, after, rfl, -⟩ := h
  simp

theorem not_isFirstLeast_nil : ¬IsFirstLeast value [] x := by
  rintro ⟨before, after, hnil, -⟩
  exact absurd hnil.symm (by simp)

theorem isFirstLeast_cons_iff :
    IsFirstLeast value (y :: list) x ↔
      (x = y ∧ ∀ other ∈ list, value y ≤ value other) ∨
        (value x < value y ∧ IsFirstLeast value list x) := by
  constructor
  · rintro ⟨before, after, hlist, hbefore, hafter⟩
    cases before with
    | nil =>
      cases hlist
      exact Or.inl ⟨rfl, hafter⟩
    | cons first before =>
      cases hlist
      obtain ⟨hfirst, hbefore⟩ := List.forall_mem_cons.1 hbefore
      exact Or.inr ⟨hfirst, before, after, rfl, hbefore, hafter⟩
  · rintro (⟨rfl, hafter⟩ | ⟨hlt, before, after, rfl, hbefore, hafter⟩)
    · exact ⟨[], list, rfl, by simp, hafter⟩
    · exact ⟨y :: before, after, rfl, List.forall_mem_cons.2 ⟨hlt, hbefore⟩, hafter⟩

/-- What is above a limit does not matter for what is not. -/
theorem isFirstLeast_filter_iff {limit : Nat} :
    IsFirstLeast value (list.filter fun y => value y ≤ limit) x ↔
      value x ≤ limit ∧ IsFirstLeast value list x := by
  induction list with
  | nil => simp [not_isFirstLeast_nil]
  | cons y list ih =>
    rw [isFirstLeast_cons_iff, List.filter_cons]
    split
    · rename_i hy
      rw [isFirstLeast_cons_iff, ih]
      have hy : value y ≤ limit := by simpa using hy
      constructor
      · rintro (⟨rfl, hafter⟩ | ⟨hlt, hlimit, hrest⟩)
        · refine ⟨hy, Or.inl ⟨rfl, fun other hother => ?_⟩⟩
          rcases Nat.lt_or_ge limit (value other) with hover | hunder
          · omega
          · exact hafter other (List.mem_filter.2 ⟨hother, by simpa using hunder⟩)
        · exact ⟨hlimit, Or.inr ⟨hlt, hrest⟩⟩
      · rintro ⟨hlimit, ⟨rfl, hafter⟩ | ⟨hlt, hrest⟩⟩
        · exact Or.inl ⟨rfl, fun other hother => hafter other (List.mem_filter.1 hother).1⟩
        · exact Or.inr ⟨hlt, hlimit, hrest⟩
    · rename_i hy
      have hy : limit < value y := by simpa using hy
      rw [ih]
      refine and_congr_right fun hlimit => ⟨fun hrest => Or.inr ⟨by omega, hrest⟩, ?_⟩
      rintro (⟨rfl, -⟩ | ⟨-, hrest⟩)
      · omega
      · exact hrest

theorem isFirstLeast_map_iff {f : β → α} {keys : List β} :
    IsFirstLeast value (keys.map f) x ↔
      ∃ key, f key = x ∧ IsFirstLeast (fun k => value (f k)) keys key := by
  induction keys with
  | nil => simp [not_isFirstLeast_nil]
  | cons key keys ih =>
    rw [List.map_cons, isFirstLeast_cons_iff, ih]
    simp only [isFirstLeast_cons_iff, List.forall_mem_map]
    constructor
    · rintro (⟨rfl, hafter⟩ | ⟨hlt, other, rfl, hrest⟩)
      · exact ⟨key, rfl, Or.inl ⟨rfl, hafter⟩⟩
      · exact ⟨other, rfl, Or.inr ⟨hlt, hrest⟩⟩
    · rintro ⟨other, rfl, ⟨rfl, hafter⟩ | ⟨hlt, hrest⟩⟩
      · exact Or.inl ⟨rfl, hafter⟩
      · exact Or.inr ⟨hlt, other, rfl, hrest⟩

end FirstLeast

variable {candidates : List (Nat × String)} {best : Nat × String}

theorem nearest_eq_none_iff : nearest candidates = none ↔ candidates = [] := by
  cases candidates with
  | nil => simp [nearest]
  | cons candidate rest =>
    rw [nearest]
    split
    · simp
    · split <;> simp

/-- By induction on the candidates. -/
theorem nearest_eq_some_iff :
    nearest candidates = some best ↔ IsFirstLeast Prod.fst candidates best := by
  induction candidates generalizing best with
  | nil => simp [nearest, not_isFirstLeast_nil]
  | cons candidate rest ih =>
    rw [isFirstLeast_cons_iff, ← ih, nearest]
    split
    · rename_i hnone
      rw [hnone, nearest_eq_none_iff.1 hnone]
      simp [eq_comm]
    · rename_i next hsome
      have hnext := ih.1 hsome
      -- the nearest of the rest stands for all of them in the comparison
      have hleast : (∀ other ∈ rest, candidate.1 ≤ other.1) ↔ ¬next.1 < candidate.1 :=
        ⟨fun hall => Nat.not_lt.2 (hall next hnext.mem),
          fun hge other hother => (Nat.not_lt.1 hge).trans (hnext.le hother)⟩
      rw [hsome, hleast]
      split
      · rename_i hlt
        constructor
        · rintro ⟨⟩
          exact Or.inr ⟨hlt, rfl⟩
        · rintro (⟨-, hge⟩ | ⟨-, heq⟩)
          · exact absurd hlt hge
          · exact heq
      · rename_i hge
        constructor
        · rintro ⟨⟩
          exact Or.inl ⟨rfl, hge⟩
        · rintro (⟨rfl, -⟩ | ⟨hlt, ⟨⟩⟩)
          · rfl
          · exact absurd hlt hge

/-! ## Sections -/

/-- A dotted key, as what its section is written before, its name in the section, and the known keys
of the section. -/
inductive InSection : String → String → String → List String → Prop
  | root (name : String) (h : '.' ∉ name.toList) : InSection name "" name rootKeys
  | defaults (name : String) : InSection ("defaults." ++ name) "defaults." name OptionLayer.keys
  | logging (name : String) : InSection ("logging." ++ name) "logging." name loggingKeys

variable {key owner name : String} {known : List String}

/-- What is written before the names of a section ends with the first dot of a key. -/
theorem splitFirst?_section {before : List Char} (h : owner.toList = before ++ ['.'])
    (hbefore : '.' ∉ before) (name : String) :
    Text.splitFirst? '.' (owner ++ name).toList = some (before, name.toList) := by
  rw [String.toList_append, h, List.append_assoc, List.singleton_append,
    Text.splitFirst?_append hbefore]

theorem InSection.sectionOf?_eq (h : InSection key owner name known) :
    sectionOf? key = some (owner, name.toList, known) := by
  cases h with
  | root _ h => rw [sectionOf?, Text.splitFirst?_of_not_mem h]
  | defaults =>
    have hsplit : Text.splitFirst? '.' ("defaults." ++ name).toList =
        some ("defaults".toList, name.toList) := splitFirst?_section (by decide) (by decide) name
    simp only [sectionOf?, hsplit, String.ofList_toList]
  | logging =>
    have hsplit : Text.splitFirst? '.' ("logging." ++ name).toList =
        some ("logging".toList, name.toList) := splitFirst?_section (by decide) (by decide) name
    simp only [sectionOf?, hsplit, String.ofList_toList]

theorem inSection_of_sectionOf?_eq {chars : List Char}
    (h : sectionOf? key = some (owner, chars, known)) :
    ∃ name, name.toList = chars ∧ InSection key owner name known := by
  by_cases hdot : '.' ∈ key.toList
  · obtain ⟨before, after, hchars, hbefore⟩ := List.eq_append_cons_of_mem hdot
    have hform : ∀ owner : String, owner.toList = before ++ ['.'] →
        key = owner ++ String.ofList after := by
      intro owner howner
      rw [← String.toList_inj, hchars, String.toList_append, howner, String.toList_ofList,
        List.append_assoc, List.singleton_append]
    simp only [sectionOf?, hchars, Text.splitFirst?_append hbefore] at h
    split at h
    · rename_i hsection
      have hbefore : before = "defaults".toList := by rw [← hsection, String.toList_ofList]
      have hdefaults := hform "defaults." (by rw [hbefore]; decide)
      cases h
      exact ⟨String.ofList chars, String.toList_ofList, hdefaults ▸ .defaults _⟩
    · rename_i hsection
      have hbefore : before = "logging".toList := by rw [← hsection, String.toList_ofList]
      have hlogging := hform "logging." (by rw [hbefore]; decide)
      cases h
      exact ⟨String.ofList chars, String.toList_ofList, hlogging ▸ .logging _⟩
    · cases h
  · rw [sectionOf?, Text.splitFirst?_of_not_mem hdot] at h
    cases h
    exact ⟨key, rfl, .root key hdot⟩

/-! ## Suggestions -/

/-- The known key that takes the fewest edits, the first of them, if it takes at most three. -/
def IsNearest (name : String) (known : List String) (best : String) : Prop :=
  Text.editDistance name.toList best.toList ≤ 3 ∧
    IsFirstLeast (fun k => Text.editDistance name.toList k.toList) known best

/-- The known keys of a section with their distances, as far as they are close enough. -/
def closeKeys (name : String) (known : List String) : List (Nat × String) :=
  (known.map fun k => (Text.editDistance name.toList k.toList, k)).filter fun c => c.1 ≤ 3

theorem nearest_closeKeys_iff :
    nearest (closeKeys name known) = some best ↔
      IsNearest name known best.2 ∧ best.1 = Text.editDistance name.toList best.2.toList := by
  rw [nearest_eq_some_iff, closeKeys, isFirstLeast_filter_iff, isFirstLeast_map_iff]
  constructor
  · rintro ⟨hlimit, key, rfl, hleast⟩
    exact ⟨⟨hlimit, hleast⟩, rfl⟩
  · rintro ⟨⟨hlimit, hleast⟩, heq⟩
    exact ⟨heq ▸ hlimit, best.2, Prod.ext heq.symm rfl, hleast⟩

theorem suggest_of_inSection (h : InSection key owner name known) :
    suggest key = (nearest (closeKeys name known)).map fun best => owner ++ best.2 := by
  have hclose : suggest key = (nearest (closeKeys name known)).bind fun best =>
      some (owner ++ best.2) := by
    rw [suggest, h.sectionOf?_eq]
    rfl
  rw [hclose, Option.map_eq_bind]
  rfl

theorem suggest_eq_some_iff {suggestion : String} :
    suggest key = some suggestion ↔ ∃ owner name known best, InSection key owner name known ∧
      IsNearest name known best ∧ suggestion = owner ++ best := by
  constructor
  · intro h
    cases hsection : sectionOf? key with
    | none =>
      rw [suggest, hsection] at h
      cases h
    | some found =>
      obtain ⟨owner, chars, known⟩ := found
      obtain ⟨name, -, hin⟩ := inSection_of_sectionOf?_eq hsection
      rw [suggest_of_inSection hin, Option.map_eq_some_iff] at h
      obtain ⟨best, hbest, rfl⟩ := h
      exact ⟨owner, name, known, best.2, hin, (nearest_closeKeys_iff.1 hbest).1, rfl⟩
  · rintro ⟨owner, name, known, best, hin, hbest, rfl⟩
    have hnearest : nearest (closeKeys name known) =
        some (Text.editDistance name.toList best.toList, best) :=
      nearest_closeKeys_iff.2 ⟨hbest, rfl⟩
    rw [suggest_of_inSection hin, hnearest]
    rfl

theorem closeKeys_eq_nil_iff :
    closeKeys name known = [] ↔ ∀ k ∈ known, 3 < Text.editDistance name.toList k.toList := by
  simp [closeKeys, List.filter_eq_nil_iff]

theorem suggest_eq_none_iff :
    suggest key = none ↔ (¬∃ owner name known, InSection key owner name known) ∨
      ∃ owner name known, InSection key owner name known ∧
        ∀ k ∈ known, 3 < Text.editDistance name.toList k.toList := by
  have hfar : ∀ {owner name known}, InSection key owner name known →
      (suggest key = none ↔ ∀ k ∈ known, 3 < Text.editDistance name.toList k.toList) := by
    intro owner name known hin
    rw [suggest_of_inSection hin, Option.map_eq_none_iff, nearest_eq_none_iff, closeKeys_eq_nil_iff]
  constructor
  · intro h
    by_cases hsection : ∃ owner name known, InSection key owner name known
    · obtain ⟨owner, name, known, hin⟩ := hsection
      exact Or.inr ⟨owner, name, known, hin, (hfar hin).1 h⟩
    · exact Or.inl hsection
  · rintro (hunknown | ⟨owner, name, known, hin, hall⟩)
    · cases hsuggest : suggest key with
      | none => rfl
      | some suggestion =>
        obtain ⟨owner, name, known, best, hin, -⟩ := suggest_eq_some_iff.1 hsuggest
        exact absurd ⟨owner, name, known, hin⟩ hunknown
    · exact (hfar hin).2 hall

/-- **Suggestions are optimal.** The edit distance is the least number of edits that turn one text
into the other. What is suggested for a key is the first of the known keys of its section at the
least distance from its name, if this is at most three, behind the section; and nothing is suggested
exactly if the section is unknown or all known keys of the section are further away. -/
theorem suggest_nearest :
    (∀ a b : List Char, IsLeast {n | Text.Edits n a b} (Text.editDistance a b)) ∧
      ∀ key : String,
        (∀ suggestion, suggest key = some suggestion ↔
          ∃ owner name known best, InSection key owner name known ∧ IsNearest name known best ∧
            suggestion = owner ++ best) ∧
        (suggest key = none ↔ (¬∃ owner name known, InSection key owner name known) ∨
          ∃ owner name known, InSection key owner name known ∧
            ∀ k ∈ known, 3 < Text.editDistance name.toList k.toList) :=
  ⟨Text.editDistance_isLeast, fun _ => ⟨fun _ => suggest_eq_some_iff, suggest_eq_none_iff⟩⟩

/-- Two edits from the only known key that is close enough. -/
example : suggest "logging.lvl" = some "logging.level" := by decide +kernel

end BeanMapper.Settings
