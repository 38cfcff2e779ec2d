import BeanMapper.Text.Blank

/-!
# Blanks before and behind a text

The blank characters one by one (`mem_blanks_of_isBlank`), and what is left of a text when blanks
are skipped or trimmed: a text is what is left with blanks before it (`exists_blanks`), or with
blanks at both ends (`exists_trim`); and blanks around a text without any leave nothing behind
(`trim_eq`).
-/

namespace BeanMapper.Text

/-- The code points of the blank characters. -/
def blanks : List Nat :=
  [0x9, 0xA, 0xB, 0xC, 0xD, 0x20, 0x85, 0xA0, 0x1680, 0x2000, 0x2001, 0x2002, 0x2003, 0x2004,
    0x2005, 0x2006, 0x2007, 0x2008, 0x2009, 0x200A, 0x2028, 0x2029, 0x202F, 0x205F, 0x3000]

theorem mem_blanks_of_isBlank {c : Char} (h : isBlank c = true) : c.toNat ∈ blanks := by
  have hcontrols : ∀ k < 5, 0x9 + k ∈ blanks := by decide
  have hspaces : ∀ k < 11, 0x2000 + k ∈ blanks := by decide
  simp only [isBlank, Bool.or_eq_true, Bool.and_eq_true, decide_eq_true_eq, beq_iff_eq, or_assoc]
    at h
  generalize c.toNat = n at h ⊢
  -- two ranges, and single characters between and behind them
  rcases h with ⟨hfirst, hlast⟩ | rfl | rfl | rfl | rfl | ⟨hfirst, hlast⟩ | h
  · have hn : 0x9 + (n - 0x9) = n := Nat.add_sub_cancel' hfirst
    exact hn ▸ hcontrols (n - 0x9) (by omega)
  · decide
  · decide
  · decide
  · decide
  · have hn : 0x2000 + (n - 0x2000) = n := Nat.add_sub_cancel' hfirst
    exact hn ▸ hspaces (n - 0x2000) (by omega)
  · rcases h with rfl | rfl | rfl | rfl | rfl <;> decide

def IsBlanks (text : List Char) : Prop := ∀ c ∈ text, isBlank c = true

variable {text tail : List Char}

theorem isBlanks_nil : IsBlanks [] := by
  intro c hc
  cases hc

theorem IsBlanks.append (h : IsBlanks text) (ht : IsBlanks tail) : IsBlanks (text ++ tail) := by
  intro c hc
  exact (List.mem_append.1 hc).elim (h c) (ht c)

theorem isBlanks_space : IsBlanks [' '] := by
  intro c hc
  rw [List.mem_singleton.1 hc]
  decide

theorem skipBlanks_cons {c : Char} (h : isBlank c = false) (rest : List Char) :
    skipBlanks (c :: rest) = c :: rest := by
  rw [skipBlanks, List.dropWhile_cons_of_neg (by simp [h])]

theorem skipBlanks_append (h : IsBlanks text) (tail : List Char) :
    skipBlanks (text ++ tail) = skipBlanks tail := List.dropWhile_append_of_pos h

/-- A text is some blanks and what is left when they are skipped. -/
theorem exists_blanks (text : List Char) :
    ∃ before, IsBlanks before ∧ text = before ++ skipBlanks text :=
  ⟨text.takeWhile isBlank, fun c hc => List.all_eq_true.1 List.all_takeWhile c hc,
    List.takeWhile_append_dropWhile.symm⟩

theorem skipBlanks_skipBlanks (text : List Char) :
    skipBlanks (skipBlanks text) = skipBlanks text := by
  obtain ⟨before, hbefore, htext⟩ := exists_blanks text
  have hskip := skipBlanks_append hbefore (skipBlanks text)
  rw [← htext] at hskip
  exact hskip.symm

/-! ## Trimming -/

/-- A text is what is left when it is trimmed, with blanks at both ends. -/
theorem exists_trim (text : String) :
    ∃ before after, IsBlanks before ∧ IsBlanks after ∧
      text.toList = before ++ (trim text).toList ++ after := by
  obtain ⟨before, hbefore, htext⟩ := exists_blanks text.toList
  obtain ⟨after, hafter, hrest⟩ := exists_blanks (skipBlanks text.toList).reverse
  have hrest : skipBlanks text.toList = (trim text).toList ++ after.reverse := by
    rw [← List.reverse_inj, hrest, List.reverse_append, List.reverse_reverse]
    simp [trim, trimBoth, skipBlanks]
  refine ⟨before, after.reverse, hbefore, fun c hc => hafter c (List.mem_reverse.1 hc), ?_⟩
  rw [List.append_assoc, ← hrest]
  exact htext

theorem skipBlanks_of_isBlanks (h : IsBlanks text) : skipBlanks text = [] := by
  have hskip := skipBlanks_append h []
  rwa [List.append_nil] at hskip

theorem skipBlanks_of_forall (h : ∀ c ∈ text, isBlank c = false) : skipBlanks text = text := by
  cases text with
  | nil => rfl
  | cons c rest => exact skipBlanks_cons (h c List.mem_cons_self) rest

/-- A text without blanks is left when blanks around it are trimmed. -/
theorem trim_eq {text : String} {before inside after : List Char} (hbefore : IsBlanks before)
    (hafter : IsBlanks after) (hinside : ∀ c ∈ inside, isBlank c = false)
    (htext : text.toList = before ++ inside ++ after) : trim text = String.ofList inside := by
  have hbehind : IsBlanks after.reverse := fun c hc => hafter c (List.mem_reverse.1 hc)
  have hreverse : ∀ c ∈ inside.reverse, isBlank c = false := fun c hc =>
    hinside c (List.mem_reverse.1 hc)
  have hfront : skipBlanks text.toList = skipBlanks (inside ++ after) := by
    rw [htext, List.append_assoc, skipBlanks_append hbefore]
  have htrim : trim text =
      String.ofList (skipBlanks (skipBlanks (inside ++ after)).reverse).reverse := by
    rw [← hfront]
    rfl
  cases inside with
  | nil =>
    rw [htrim, List.nil_append, skipBlanks_of_isBlanks hafter]
    rfl
  | cons c rest =>
    have hfirst : skipBlanks (c :: rest ++ after) = c :: rest ++ after :=
      skipBlanks_cons (hinside c List.mem_cons_self) (rest ++ after)
    rw [htrim, hfirst, List.reverse_append, skipBlanks_append hbehind,
      skipBlanks_of_forall hreverse, List.reverse_reverse]

end BeanMapper.Text
