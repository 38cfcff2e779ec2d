import BeanMapper.Proofs.Text.Parts
import BeanMapper.Text.Blank
import Mathlib.Data.List.DropRight

/-!
# Texts joined by a mark

A text is its parts joined by the mark that cuts it. What is done to the text is done to its parts:
an occurrence of a pattern without the mark lies within one part (`splitAll_replaceFrom`), and to
trim the mark at both ends is to leave out the empty parts at both ends (`trimBoth_join`). An empty
part that stays is one between two parts that are not empty (`nil_mem_trimmed_iff`).
-/

namespace BeanMapper.Text

variable {mark : Char} {text : List Char} {segments : List (List Char)}

/-- Cutting is that of the library. -/
theorem splitAll_eq_splitOn (mark : Char) (text : List Char) :
    splitAll mark text = text.splitOn mark := by
  induction text with
  | nil => rfl
  | cons c rest ih =>
    rw [splitAll, ih, List.splitOn, List.splitOn, List.splitOnP_cons_eq_if_modifyHead]
    by_cases h : c = mark
    · simp [h]
    · obtain ⟨part, parts, hparts⟩ :=
        List.exists_cons_of_ne_nil (List.splitOnP_ne_nil (· == mark) rest)
      simp [h, hparts]

/-- Segments with a mark between each two of them. -/
def join (mark : Char) (segments : List (List Char)) : List Char := [mark].intercalate segments

theorem join_nil : join mark [] = [] := rfl

theorem join_singleton (segment : List Char) : join mark [segment] = segment := by
  simp [join]

theorem join_cons (segment : List Char) (h : segments ≠ []) :
    join mark (segment :: segments) = segment ++ mark :: join mark segments := by
  obtain ⟨next, rest, rfl⟩ := List.exists_cons_of_ne_nil h
  rw [join, List.intercalate_cons_cons, List.append_assoc, List.singleton_append, join]

theorem join_splitAll (mark : Char) (text : List Char) : join mark (splitAll mark text) = text := by
  rw [splitAll_eq_splitOn]
  exact List.intercalate_splitOn mark

theorem splitAll_join (h : ∀ segment ∈ segments, mark ∉ segment) (hne : segments ≠ []) :
    splitAll mark (join mark segments) = segments := by
  rw [splitAll_eq_splitOn]
  exact List.splitOn_intercalate mark h hne

theorem splitAll_ne_nil (mark : Char) (text : List Char) : splitAll mark text ≠ [] := by
  rw [splitAll_eq_splitOn]
  exact List.splitOnP_ne_nil _ _

theorem splitAll_of_not_mem (h : mark ∉ text) : splitAll mark text = [text] := by
  have hjoin : splitAll mark (join mark [text]) = [text] :=
    splitAll_join (by simpa using h) (by simp)
  rwa [join_singleton] at hjoin

/-- Segments may be cut further, each for itself. -/
theorem splitAll_join_flatMap (hne : segments ≠ []) :
    splitAll mark (join mark segments) = segments.flatMap (splitAll mark) := by
  induction segments with
  | nil => exact absurd rfl hne
  | cons segment rest ih =>
    cases rest with
    | nil => rw [join_singleton, List.flatMap_singleton]
    | cons next others =>
      rw [join_cons segment (List.cons_ne_nil _ _), List.flatMap_cons, ← ih (List.cons_ne_nil _ _)]
      simp only [splitAll_eq_splitOn]
      exact List.splitOnP_append_cons (p := (· == mark)) _ _ (beq_self_eq_true mark)

/-! ## Replacing -/

section Replacing

variable {pattern replacement before after : List Char}

/-- What does not hold the mark does not reach beyond it. -/
theorem isPrefix_append_cons_iff (h : mark ∉ pattern) :
    pattern <+: before ++ mark :: after ↔ pattern <+: before := by
  refine ⟨fun hprefix => ?_, fun hprefix => hprefix.trans (List.prefix_append _ _)⟩
  rcases Nat.lt_or_ge before.length pattern.length with hlong | hshort
  · have hmark : before ++ [mark] <+: pattern := by
      refine List.prefix_of_prefix_length_le ?_ hprefix (by simp; omega)
      exact (List.prefix_append_right_inj _).2 ⟨after, rfl⟩
    exact absurd (hmark.subset (by simp)) h
  · exact List.prefix_of_prefix_length_le hprefix (List.prefix_append _ _) hshort

/-- Replacing starts anew behind the mark, by induction on the text before it. -/
theorem replaceFrom_append_cons (h : mark ∉ pattern) (hne : pattern ≠ []) {skip : Nat}
    (hskip : skip ≤ before.length) :
    replaceFrom pattern replacement skip (before ++ mark :: after) =
      replaceFrom pattern replacement skip before ++
        mark :: replaceFrom pattern replacement 0 after := by
  induction before generalizing skip with
  | nil =>
    cases Nat.le_zero.1 hskip
    have hno : ¬pattern.isPrefixOf (mark :: after) = true := by
      rw [List.isPrefixOf_iff_prefix, ← List.nil_append (mark :: after),
        isPrefix_append_cons_iff h, List.prefix_nil]
      exact hne
    rw [List.nil_append, replaceFrom, List.nil_append, replaceFrom, if_neg hno]
  | cons c rest ih =>
    cases skip with
    | succ skip => exact ih (Nat.le_of_succ_le_succ hskip)
    | zero =>
      have hiff : pattern.isPrefixOf (c :: (rest ++ mark :: after)) = true ↔
          pattern.isPrefixOf (c :: rest) = true := by
        rw [List.isPrefixOf_iff_prefix, List.isPrefixOf_iff_prefix, ← List.cons_append]
        exact isPrefix_append_cons_iff h
      rw [List.cons_append, replaceFrom, replaceFrom]
      by_cases hprefix : pattern.isPrefixOf (c :: rest) = true
      · have hlength := (List.isPrefixOf_iff_prefix.1 hprefix).length_le
        rw [List.length_cons] at hlength
        rw [if_pos hprefix, if_pos (hiff.2 hprefix), ih (by omega), List.append_assoc]
      · rw [if_neg hprefix, if_neg (mt hiff.1 hprefix), ih (Nat.zero_le _), List.cons_append]

theorem replaceFrom_join (h : mark ∉ pattern) (hne : pattern ≠ []) :
    replaceFrom pattern replacement 0 (join mark segments) =
      join mark (segments.map (replaceFrom pattern replacement 0)) := by
  induction segments with
  | nil => rfl
  | cons segment rest ih =>
    cases rest with
    | nil => rw [join_singleton, List.map_singleton, join_singleton]
    | cons next others =>
      rw [join_cons segment (List.cons_ne_nil _ _),
        replaceFrom_append_cons h hne (Nat.zero_le _), ih, List.map_cons (a := segment),
        join_cons _ (by simp)]

/-- The parts of a text in which a pattern has been replaced are those of its parts in which the
pattern has been replaced. -/
theorem splitAll_replaceFrom (h : mark ∉ pattern) (hne : pattern ≠ []) (text : List Char) :
    splitAll mark (replaceFrom pattern replacement 0 text) =
      (splitAll mark text).flatMap fun part =>
        splitAll mark (replaceFrom pattern replacement 0 part) := by
  have hparts : splitAll mark text ≠ [] := splitAll_ne_nil mark text
  conv_lhs => rw [← join_splitAll mark text, replaceFrom_join h hne]
  rw [splitAll_join_flatMap (by simpa using hparts), List.flatMap_map]

/-- Everything up to the end of an occurrence is passed over. -/
theorem replaceFrom_of_length_le {skip : Nat} (h : text.length ≤ skip) :
    replaceFrom pattern replacement skip text = [] := by
  induction text generalizing skip with
  | nil => rw [replaceFrom]
  | cons c rest ih =>
    cases skip with
    | zero => cases h
    | succ skip => exact ih (Nat.le_of_succ_le_succ h)

theorem replaceFrom_self (hne : pattern ≠ []) :
    replaceFrom pattern replacement 0 pattern = replacement := by
  obtain ⟨c, rest, rfl⟩ := List.exists_cons_of_ne_nil hne
  have hself : (c :: rest).isPrefixOf (c :: rest) = true := by simp
  rw [replaceFrom, if_pos hself, replaceFrom_of_length_le (by simp), List.append_nil]

theorem replaceFrom_of_not_occursIn (h : occursIn pattern text = false) :
    replaceFrom pattern replacement 0 text = text := by
  induction text with
  | nil => rw [replaceFrom]
  | cons c rest ih =>
    rw [occursIn, Bool.or_eq_false_iff] at h
    rw [replaceFrom, if_neg (by simp [h.1]), ih h.2]

end Replacing

/-! ## Trimming -/

theorem dropWhile_join (h : ∀ segment ∈ segments, mark ∉ segment) :
    (join mark segments).dropWhile (· == mark) =
      join mark (segments.dropWhile List.isEmpty) := by
  induction segments with
  | nil => rfl
  | cons segment rest ih =>
    have hrest := ih fun other hother => h other (List.mem_cons_of_mem _ hother)
    cases segment with
    | nil =>
      rw [List.dropWhile_cons_of_pos rfl, ← hrest]
      cases rest with
      | nil => rfl
      | cons next others => rw [join_cons _ (List.cons_ne_nil _ _), List.nil_append,
          List.dropWhile_cons_of_pos (p := (· == mark)) (beq_self_eq_true mark)]
    | cons c chars =>
      have hc : ¬(c == mark) = true := by
        rintro hc
        exact h _ List.mem_cons_self (List.mem_cons.2 (Or.inl (beq_iff_eq.1 hc).symm))
      rw [List.dropWhile_cons_of_neg (by simp)]
      cases rest with
      | nil => rw [join_singleton, List.dropWhile_cons_of_neg (p := (· == mark)) hc]
      | cons next others => rw [join_cons _ (List.cons_ne_nil _ _), List.cons_append,
          List.dropWhile_cons_of_neg (p := (· == mark)) hc]

theorem join_concat (segment : List Char) (h : segments ≠ []) :
    join mark (segments ++ [segment]) = join mark segments ++ mark :: segment := by
  induction segments with
  | nil => exact absurd rfl h
  | cons first rest ih =>
    cases rest with
    | nil => rw [List.singleton_append, join_cons _ (by simp), join_singleton, join_singleton]
    | cons next others =>
      rw [List.cons_append, join_cons _ (by simp), ih (List.cons_ne_nil _ _),
        join_cons _ (List.cons_ne_nil _ _), List.append_assoc, List.cons_append]

theorem reverse_join (mark : Char) (segments : List (List Char)) :
    (join mark segments).reverse = join mark (segments.map List.reverse).reverse := by
  induction segments with
  | nil => rfl
  | cons segment rest ih =>
    cases rest with
    | nil => simp [join_singleton]
    | cons next others =>
      rw [join_cons _ (List.cons_ne_nil _ _), List.reverse_append, List.reverse_cons, ih,
        List.map_cons (a := segment), List.reverse_cons, join_concat _ (by simp), List.append_assoc,
        List.singleton_append]

/-- Segments without the empty ones at either end. -/
def trimmed (segments : List (List Char)) : List (List Char) :=
  (segments.dropWhile List.isEmpty).rdropWhile List.isEmpty

theorem mem_of_mem_trimmed {segment : List Char} (h : segment ∈ trimmed segments) :
    segment ∈ segments :=
  (List.dropWhile_sublist _).subset ((List.rdropWhile_prefix _ _).subset h)

/-- To trim the mark is to leave out the empty segments. -/
theorem trimBoth_join (h : ∀ segment ∈ segments, mark ∉ segment) :
    trimBoth (· == mark) (join mark segments) = join mark (trimmed segments) := by
  have hleft : ∀ segment ∈ segments.dropWhile List.isEmpty, mark ∉ segment := fun segment hmem =>
    h segment ((List.dropWhile_sublist _).subset hmem)
  have hright : ∀ segment ∈ ((segments.dropWhile List.isEmpty).map List.reverse).reverse,
      mark ∉ segment := by
    intro segment hmem
    obtain ⟨other, hother, rfl⟩ := List.mem_map.1 (List.mem_reverse.1 hmem)
    rw [List.mem_reverse]
    exact hleft other hother
  rw [trimBoth, dropWhile_join h, reverse_join, dropWhile_join hright, reverse_join, trimmed,
    List.rdropWhile, ← List.map_reverse, ← List.map_reverse, List.dropWhile_map, ← List.map_reverse]
  simp [Function.comp_def]

theorem ne_nil_of_dropWhile {first : List Char} {rest : List (List Char)}
    (h : segments.dropWhile List.isEmpty = first :: rest) : first ≠ [] := by
  have hfirst := List.head?_dropWhile_not List.isEmpty segments
  rw [h] at hfirst
  simpa using hfirst

theorem dropWhile_append_of_ne_nil {before after : List (List Char)}
    (h : ∃ segment ∈ before, segment ≠ []) :
    (before ++ after).dropWhile List.isEmpty = before.dropWhile List.isEmpty ++ after := by
  obtain ⟨segment, hmem, hne⟩ := h
  have hsome : ¬(before.dropWhile List.isEmpty).isEmpty = true := by
    rw [List.isEmpty_iff, List.dropWhile_eq_nil_iff]
    exact fun hall => hne (List.isEmpty_iff.1 (hall segment hmem))
  rw [List.dropWhile_append, if_neg hsome]

/-- Nothing is left exactly of segments that are all empty. -/
theorem trimmed_eq_nil_iff : trimmed segments = [] ↔ ∀ segment ∈ segments, segment = [] := by
  rw [trimmed, List.rdropWhile_eq_nil_iff]
  constructor
  · intro h segment hmem
    cases hd : segments.dropWhile List.isEmpty with
    | nil => exact List.isEmpty_iff.1 (List.dropWhile_eq_nil_iff.1 hd segment hmem)
    | cons first rest =>
      have hempty := h first (hd ▸ List.mem_cons_self)
      exact absurd (List.isEmpty_iff.1 hempty) (ne_nil_of_dropWhile hd)
  · intro h segment hmem
    exact List.isEmpty_iff.2 (h segment ((List.dropWhile_sublist _).subset hmem))

/-- What is left does not end with an empty segment. -/
theorem join_trimmed_eq_nil_iff (h : ∀ segment ∈ segments, mark ∉ segment) :
    join mark (trimmed segments) = [] ↔ trimmed segments = [] := by
  refine ⟨fun hjoin => ?_, fun hnil => by rw [hnil, join_nil]⟩
  by_contra hne
  have hparts := splitAll_join (fun segment hmem => h segment (mem_of_mem_trimmed hmem)) hne
  rw [hjoin] at hparts
  have hlast := List.rdropWhile_last_not List.isEmpty (segments.dropWhile List.isEmpty) hne
  change ¬((trimmed segments).getLast hne).isEmpty = true at hlast
  simp [← hparts, splitAll] at hlast

/-- An empty segment that is left is one between two that are not empty. -/
theorem nil_mem_trimmed_iff :
    [] ∈ trimmed segments ↔ ∃ before after, segments = before ++ [] :: after ∧
      (∃ segment ∈ before, segment ≠ []) ∧ ∃ segment ∈ after, segment ≠ [] := by
  constructor
  · intro h
    have hlast := List.rdropWhile_last_not List.isEmpty (segments.dropWhile List.isEmpty)
      (List.ne_nil_of_mem h)
    obtain ⟨behind, hbehind⟩ :=
      List.rdropWhile_prefix List.isEmpty (segments.dropWhile List.isEmpty)
    obtain ⟨before, after, hmiddle⟩ := List.append_of_mem h
    rw [trimmed] at hmiddle
    simp only [hmiddle] at hlast
    rw [hmiddle, List.append_assoc, List.cons_append] at hbehind
    refine ⟨segments.takeWhile List.isEmpty ++ before, after ++ behind, ?_, ?_, ?_⟩
    · rw [List.append_assoc, hbehind, List.takeWhile_append_dropWhile]
    · cases before with
      | nil => exact absurd rfl (ne_nil_of_dropWhile hbehind.symm)
      | cons first rest =>
        exact ⟨first, by simp, ne_nil_of_dropWhile hbehind.symm⟩
    · cases after using List.reverseRecOn with
      | nil => simp at hlast
      | append_singleton rest last _ => exact ⟨last, by simp, by simpa using hlast⟩
  · rintro ⟨before, after, rfl, hbefore, last, hlast, hne⟩
    have hafter : ∃ segment ∈ after.reverse, segment ≠ [] := ⟨last, List.mem_reverse.2 hlast, hne⟩
    rw [trimmed, dropWhile_append_of_ne_nil hbefore, List.rdropWhile, List.reverse_append,
      List.reverse_cons, List.append_assoc, dropWhile_append_of_ne_nil hafter]
    simp

end BeanMapper.Text
