import BeanMapper.Conversion.Basic

/-!
# Found conversions

A conversion is found between two primitive types or boxes, to a text, or from a text
(`find?_cases`), and it is one between the types that it is looked up for (`types_of_find?`). Every
primitive type and box has a conversion to a text and one back (`exists_find?_text`,
`exists_find?_of_text`).
-/

namespace BeanMapper.Conversion

variable {table : ClassTable} {source target text : Ty} {c : KnownConversion}

/-! ## What is found -/

theorem find?_cases (h : find? table source target = some c) :
    (∃ s t, ofPrimitives? source target s t = some c) ∨
      toString? table source target = some c ∨ fromString? table source target = some c := by
  unfold find? at h
  split at h
  · cases h
  · split at h
    · exact Or.inl ⟨_, _, h⟩
    · split at h
      · rename_i found hfound
        cases h
        split at hfound
        · exact Or.inr (Or.inl hfound)
        · cases hfound
      · split at h
        · exact Or.inr (Or.inr h)
        · cases h

theorem types_of_ofPrimitives? {s t : Primitive} (h : ofPrimitives? source target s t = some c) :
    c.source = source ∧ c.target = target := by
  unfold ofPrimitives? at h
  split at h
  · cases h; exact ⟨rfl, rfl⟩
  · split at h <;> cases h
    exact ⟨rfl, rfl⟩

theorem types_of_toString? (h : toString? table source target = some c) :
    c.source = source ∧ c.target = target := by
  unfold toString? at h
  repeat' split at h
  all_goals cases h <;> exact ⟨rfl, rfl⟩

theorem types_of_fromString? (h : fromString? table source target = some c) :
    c.source = source ∧ c.target = target := by
  unfold fromString? at h
  repeat' split at h
  all_goals cases h <;> exact ⟨rfl, rfl⟩

/-- A conversion is one between the types that it is looked up for. -/
theorem types_of_find? (h : find? table source target = some c) :
    c.source = source ∧ c.target = target := by
  rcases find?_cases h with ⟨s, t, h⟩ | h | h
  · exact types_of_ofPrimitives? h
  · exact types_of_toString? h
  · exact types_of_fromString? h

/-! ## Primitive types and texts -/

/-- The class of texts boxes nothing. -/
theorem primitiveOf?_of_isString (h : text.isString = true) : primitiveOf? text = none := by
  cases text with
  | declared name arguments =>
    have hname : name = Platform.string := by simpa [Ty.isString, Ty.isClass] using h
    subst hname
    rfl
  | _ => cases h

theorem ne_of_isString (h : (primitiveOf? source).isSome) (htext : text.isString = true) :
    source ≠ text := by
  rintro rfl
  rw [primitiveOf?_of_isString htext] at h
  cases h

/-- Primitive types and boxes convert to texts. -/
theorem exists_find?_text (table : ClassTable) (h : (primitiveOf? source).isSome)
    (htext : text.isString = true) : ∃ print, find? table source text = some print := by
  have hnone := primitiveOf?_of_isString htext
  have hne := ne_of_isString h htext
  simp [find?, toString?, hne, hnone, htext, h]

/-- Texts convert to primitive types and boxes. -/
theorem exists_find?_of_text (table : ClassTable) (h : (primitiveOf? target).isSome)
    (htext : text.isString = true) : ∃ read, find? table text target = some read := by
  have hnone := primitiveOf?_of_isString htext
  have hne := ne_of_isString h htext
  have hclass : target.isString = false := by
    cases hstring : target.isString with
    | false => rfl
    | true =>
      rw [primitiveOf?_of_isString hstring] at h
      cases h
  obtain ⟨p, hp⟩ := Option.isSome_iff_exists.1 h
  simp [find?, fromString?, hne.symm, hnone, hclass, htext, hp]

end BeanMapper.Conversion
