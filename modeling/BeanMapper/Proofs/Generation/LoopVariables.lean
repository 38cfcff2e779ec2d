import BeanMapper.Proofs.Generation.LoopTypes
import BeanMapper.Proofs.Text.Case

/-!
# Names of loop variables

The loop of a method for iterables runs over its source with a variable that is named after the
elements: by the first letter of a primitive type, else by the name of the class in lower case
(`loopWord`). The name is never empty, and never that of the source. Two things are not looked at:
the other parameters of the method, and whether the name of a class becomes a keyword, as those of
`Long` and `Boolean` do. `MapperDecl.loop_variable_usable_iff` says that these are all the ways in
which the name cannot be used; `Census.not_always_usable` is a loop over long numbers.
-/

namespace BeanMapper

/-! ## Replacements that show -/

namespace Text

/-- A text without a character of the replacement is one in which nothing has been replaced. -/
theorem replaceFrom_of_not_mem {mark : Char} {pattern replacement text : List Char}
    (hmark : mark ∈ replacement) (h : mark ∉ replaceFrom pattern replacement 0 text) :
    replaceFrom pattern replacement 0 text = text := by
  induction text with
  | nil => rfl
  | cons c rest ih =>
    rw [replaceFrom] at h ⊢
    split at h
    · exact absurd (List.mem_append_left _ hmark) h
    · rename_i hc
      rw [if_neg hc, ih fun hrest => h (List.mem_cons_of_mem _ hrest)]

theorem replace_of_not_mem (mark : Char) {pattern replacement text : String}
    (hmark : mark ∈ replacement.toList) (h : mark ∉ (replace pattern replacement text).toList) :
    replace pattern replacement text = text := by
  rw [replace, String.toList_ofList] at h
  rw [replace, replaceFrom_of_not_mem hmark h, String.ofList_toList]

end Text

/-! ## Keywords -/

theorem Primitive.ofName?_eq_none_iff {name : String} :
    ofName? name = none ↔ ∀ p : Primitive, name ≠ p.name := by
  rw [ofName?, List.find?_eq_none]
  constructor
  · intro h p hp
    exact h p (mem_all p) (by simp [hp])
  · intro h p _
    simpa using Ne.symm (h p)

/-- A type is not primitive, but bears the name of a primitive type, in lower case or
capitalized. -/
def Ty.IsNamedAfter (ty : Ty) (p : Primitive) : Prop :=
  ty.isPrimitive = false ∧ (ty.simpleName = p.name ∨ ty.simpleName = Text.capitalize p.name)

instance (ty : Ty) (p : Primitive) : Decidable (ty.IsNamedAfter p) :=
  inferInstanceAs (Decidable (_ ∧ _))

/-- A name becomes the keyword of a primitive type only if it is that keyword, in lower case or
capitalized; the word that stands for brackets is in none of them. -/
theorem Primitive.decapitalize_eq_name_iff {name : String} (p : Primitive) :
    Text.decapitalize (Text.replace "[]" "Array" name) = p.name ↔
      name = p.name ∨ name = Text.capitalize p.name := by
  have hword : ∀ name, Text.decapitalize name = p.name ↔
      name = p.name ∨ name = Text.capitalize p.name := fun name => by
    cases p <;> exact Text.decapitalize_eq_iff rfl (by decide) (by decide)
  have hbrackets : 'A' ∉ p.name.toList ∧ 'A' ∉ (Text.capitalize p.name).toList := by
    cases p <;> decide
  rw [hword]
  constructor
  · intro h
    have hkept : Text.replace "[]" "Array" name = name := by
      refine Text.replace_of_not_mem 'A' (by decide) ?_
      rcases h with h | h <;> rw [h]
      · exact hbrackets.1
      · exact hbrackets.2
    rwa [hkept] at h
  · rintro (rfl | rfl)
    · left
      cases p <;> decide
    · right
      cases p <;> decide

namespace Generator

/-! ## The name -/

def loopWord (element : Ty) : String :=
  let named := match element.primitive? with
    | some p => String.ofList (p.name.toList.take 1)
    | none => Text.decapitalize (Text.replace "[]" "Array" element.simpleName)
  if named.isEmpty then "element" else named

theorem loopVariable_eq (element : Ty) (parameter : String) :
    loopVariable element parameter =
      if loopWord element = parameter then loopWord element ++ "1" else loopWord element := rfl

variable {element : Ty} {parameter : String}

theorem elementWord_ne_empty {named : String} :
    (if named.isEmpty then "element" else named) ≠ "" := by
  split
  · decide
  · rename_i h
    simpa using h

theorem loopWord_ne_empty : loopWord element ≠ "" := elementWord_ne_empty

/-- The word for elements without a name is no keyword, and neither is the empty name. -/
theorem elementWord_eq_name_iff {named : String} {p : Primitive} :
    (if named.isEmpty then "element" else named) = p.name ↔ named = p.name := by
  split
  · rename_i hempty
    rw [String.isEmpty_iff.1 hempty]
    cases p <;> decide
  · rfl

theorem loopWord_eq_name_iff {p : Primitive} :
    loopWord element = p.name ↔ element.IsNamedAfter p := by
  rw [loopWord, elementWord_eq_name_iff]
  cases element with
  | primitive q =>
    have hletter : String.ofList (q.name.toList.take 1) ≠ p.name := by
      cases q <;> cases p <;> decide
    exact iff_of_false hletter fun h => Bool.noConfusion h.1
  | _ => exact p.decapitalize_eq_name_iff.trans (and_iff_right rfl).symm

theorem loopVariable_ne_empty : loopVariable element parameter ≠ "" := by
  rw [loopVariable_eq]
  split
  · simp
  · exact loopWord_ne_empty

theorem loopVariable_ne : loopVariable element parameter ≠ parameter := by
  rw [loopVariable_eq]
  split
  · rename_i h
    subst h
    intro h
    have hlength := congrArg String.length h
    simp at hlength
  · rename_i h
    exact h

/-- The name is a keyword if the elements are of a type that is named like one, and the source is
not. -/
theorem ofName?_loopVariable_iff : Primitive.ofName? (loopVariable element parameter) = none ↔
    ∀ p : Primitive, element.IsNamedAfter p → parameter = p.name := by
  simp only [Primitive.ofName?_eq_none_iff, ← loopWord_eq_name_iff, loopVariable_eq]
  split
  · rename_i h
    subst h
    -- no keyword ends with a digit
    have hdigit : ∀ (text : String) (p : Primitive), text ++ "1" ≠ p.name := by
      intro text p h
      have hlast : p.name.toList.getLast? = some '1' := by simp [← h]
      revert hlast
      cases p <;> decide
    exact iff_of_true (hdigit _) fun _ h => h
  · rename_i h
    refine forall_congr' fun p => ⟨fun hne hp => absurd hp hne, fun hp heq => ?_⟩
    exact h (heq.trans (hp heq).symm)

/-! ## Loops of generated methods -/

variable {generator : Generator} {method : Method} {generated : GeneratedMethod}
  {source : Parameter} {name : String} {part : PartMapping}

/-- The variable of a generated loop is named after its elements and kept apart from its source,
which is the only one. -/
theorem name_of_loop (hg : (generator.draft method).method = some generated)
    (hb : generated.body = .iterable source name part) :
    method.sources = [source] ∧ name = loopVariable part.source source.name := by
  rcases draft_cases hg with hbean | ⟨only, hsources, hiterable | hmap⟩
  · rw [hbean] at hg
    obtain ⟨_, _, _, _, -, -, rfl⟩ := bean_made hg
    cases hb
  · obtain ⟨_, _, _, _, -, -, hpart, -, rfl⟩ := iterable_made hiterable
    cases hb
    exact ⟨hsources, by rw [(types_of_partMapping hpart).1]⟩
  · obtain ⟨_, _, hbody⟩ := map_body hmap
    rw [hb] at hbody
    cases hbody

end Generator

/-! ## Names that can be used -/

/-- A name that a variable can have in a method with these parameters: one that none of them has,
and that is no keyword of a primitive type. -/
structure UsableIn (parameters : List Parameter) (name : String) : Prop where
  nonempty : name ≠ ""
  fresh : ∀ parameter ∈ parameters, parameter.name ≠ name
  noKeyword : Primitive.ofName? name = none

namespace MapperDecl

/-- **When a loop variable can be used.** The variable of every generated loop has a name, and not
that of the source. It can be used exactly if no other parameter has its name, and the elements are
not of a type named after a primitive type; or the source has that name already, so that the
variable has another one. -/
theorem loop_variable_usable_iff {mapper : MapperDecl} {table : ClassTable} {settings : Settings}
    {generated : GeneratedMethod} {source : Parameter} {name : String} {element : PartMapping}
    (hg : generated ∈ (mapper.generate table settings).methods)
    (hb : generated.body = .iterable source name element) :
    name ≠ "" ∧ name ≠ source.name ∧
      (UsableIn generated.parameters name ↔
        (∀ parameter ∈ generated.parameters, parameter.role ≠ .source → parameter.name ≠ name) ∧
          ∀ p : Primitive, element.source.IsNamedAfter p → source.name = p.name) := by
  obtain ⟨draft, hdraft, hmethod⟩ := List.mem_filterMap.1 hg
  obtain ⟨method, -, rfl⟩ := List.mem_map.1 hdraft
  obtain ⟨hsources, rfl⟩ := Generator.name_of_loop hmethod hb
  rw [← Generator.toSignature_of_draft hmethod] at hsources
  refine ⟨Generator.loopVariable_ne_empty, Generator.loopVariable_ne, ?_⟩
  rw [← Generator.ofName?_loopVariable_iff]
  constructor
  · exact fun h => ⟨fun parameter hp _ => h.fresh parameter hp, h.noKeyword⟩
  · rintro ⟨hothers, hkeyword⟩
    refine ⟨Generator.loopVariable_ne_empty, fun parameter hp => ?_, hkeyword⟩
    by_cases hrole : parameter.role = .source
    -- the loop runs over the only source, whose name it avoids
    · have honly : parameter ∈ generated.sources := List.mem_filter.2 ⟨hp, by simp [hrole]⟩
      rw [hsources, List.mem_singleton] at honly
      rw [honly]
      exact Generator.loopVariable_ne.symm
    · exact hothers parameter hp hrole

end MapperDecl

/-! ## Numbers in a census -/

namespace Census

def numbers (name : String) : Parameter :=
  { name, ty := .declared Platform.list [.named "java.lang.Long"] }

/-- Lists long numbers as texts; the list and whatever else is at hand have these names. -/
def toTexts (name : String) (others : List String) : Method where
  name := "toTexts"
  parameters := numbers name :: others.map fun other =>
    { name := other, ty := .string, role := .context }
  returnType := .declared Platform.list [.string]
  owner := .named "census.CountMapper"

def mapper (method : Method) : MapperDecl where
  ty := .named "census.CountMapper"
  methods := [method]

theorem generated_texts : ∃ generated element,
    generated ∈ ((mapper (toTexts "long" ["text"])).generate Platform.table {}).methods ∧
      generated.parameters = (toTexts "long" ["text"]).parameters ∧
      generated.body = .iterable (numbers "long") "long1" element ∧
      element.source = .named "java.lang.Long" :=
  ⟨_, _, MapperDecl.mem_methods_of_draft List.mem_cons_self rfl, rfl, rfl, rfl⟩

/-- Where the list is called by the keyword itself, the variable for its numbers is another name,
and can be used. -/
theorem loop_variable_usable_iff_texts : ∃ generated element,
    generated ∈ ((mapper (toTexts "long" ["text"])).generate Platform.table {}).methods ∧
      generated.body = .iterable (numbers "long") "long1" element ∧
      element.source.IsNamedAfter .long ∧ UsableIn generated.parameters "long1" := by
  obtain ⟨generated, element, hg, hparameters, hb, hsource⟩ := generated_texts
  obtain ⟨-, -, husable⟩ := MapperDecl.loop_variable_usable_iff hg hb
  refine ⟨generated, element, hg, hb, by rw [hsource]; decide, husable.2 ⟨?_, fun p hp => ?_⟩⟩
  · rw [hparameters]
    decide
  · rw [hsource] at hp
    revert hp
    cases p <;> decide

/-- A loop over long numbers under another name has a keyword for its variable. -/
theorem not_always_usable : ¬∀ (mapper : MapperDecl) (table : ClassTable) (settings : Settings)
    (generated : GeneratedMethod) (source : Parameter) (name : String) (element : PartMapping),
    generated ∈ (mapper.generate table settings).methods →
    generated.body = .iterable source name element → UsableIn generated.parameters name := by
  intro hall
  obtain ⟨generated, element, hg, hb⟩ : ∃ generated element,
      generated ∈ ((mapper (toTexts "ids" [])).generate Platform.table {}).methods ∧
        generated.body = .iterable (numbers "ids") "long" element :=
    ⟨_, _, MapperDecl.mem_methods_of_draft List.mem_cons_self rfl, rfl⟩
  have hkeyword := (hall _ _ _ _ _ _ _ hg hb).noKeyword
  revert hkeyword
  decide

end Census

end BeanMapper
