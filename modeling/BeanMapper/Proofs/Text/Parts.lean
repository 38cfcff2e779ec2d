import BeanMapper.Text.Cut

/-!
# Texts cut at a mark

A text is cut in one way at the first occurrence of a mark, so what stands before the mark and what
stands behind it are known from the whole (`append_cons_inj`); and the parts between the marks hold
none (`not_mem_of_mem_parts`).
-/

namespace BeanMapper.Text

variable {mark : Char} {before before' after after' : List Char}

theorem splitFirst?_append (h : mark ∉ before) :
    splitFirst? mark (before ++ mark :: after) = some (before, after) := by
  induction before with
  | nil => simp [splitFirst?]
  | cons c rest ih =>
    obtain ⟨hc, hrest⟩ := not_or.1 (mt List.mem_cons.2 h)
    rw [List.cons_append, splitFirst?, if_neg (Ne.symm hc), ih hrest]
    rfl

theorem splitFirst?_of_not_mem (h : mark ∉ before) : splitFirst? mark before = none := by
  induction before with
  | nil => rfl
  | cons c rest ih =>
    obtain ⟨hc, hrest⟩ := not_or.1 (mt List.mem_cons.2 h)
    rw [splitFirst?, if_neg (Ne.symm hc), ih hrest]
    rfl

theorem append_cons_inj (h : mark ∉ before) (h' : mark ∉ before') :
    before ++ mark :: after = before' ++ mark :: after' ↔ before = before' ∧ after = after' := by
  constructor
  · intro heq
    have hsplit : splitFirst? mark (before ++ mark :: after) = some (before, after) :=
      splitFirst?_append h
    rw [heq, splitFirst?_append h', Option.some.injEq, Prod.mk.injEq] at hsplit
    exact ⟨hsplit.1.symm, hsplit.2.symm⟩
  · rintro ⟨rfl, rfl⟩
    rfl

theorem not_mem_of_mem_splitAll {text part : List Char} (h : part ∈ splitAll mark text) :
    mark ∉ part := by
  induction text generalizing part with
  | nil =>
    rw [List.mem_singleton.1 h]
    exact List.not_mem_nil
  | cons c rest ih =>
    rw [splitAll] at h
    split at h
    · rcases List.mem_cons.1 h with rfl | h
      · exact List.not_mem_nil
      · exact ih h
    · rename_i hc
      -- the character joins the first part of the rest
      cases hparts : splitAll mark rest with
      | nil =>
        rw [hparts] at h
        rw [List.mem_singleton.1 h]
        exact fun hmem => hc (List.mem_singleton.1 hmem).symm
      | cons first others =>
        rw [hparts] at h
        rcases List.mem_cons.1 h with rfl | h
        · rw [List.mem_cons, not_or]
          exact ⟨Ne.symm hc, ih (hparts ▸ List.mem_cons_self)⟩
        · exact ih (hparts ▸ List.mem_cons_of_mem _ h)

theorem not_mem_of_mem_parts {text part : String} (h : part ∈ parts mark text) :
    mark ∉ part.toList := by
  obtain ⟨chars, hchars, rfl⟩ := List.mem_map.1 h
  rw [String.toList_ofList]
  exact not_mem_of_mem_splitAll hchars

end BeanMapper.Text
