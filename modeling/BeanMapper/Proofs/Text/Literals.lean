import BeanMapper.Simulation.Evaluation
import Mathlib.Data.List.Basic

/-!
# Literals of texts

A text is quoted in two passes: its backslashes are doubled, and then a backslash is put before each
quote (`quote_eq_replaced`). A literal is read in two passes as well, the first of which undoes the
second of these. A run of backslashes before a quote is odd in a literal, and only the last of them
is taken away with the quote, so that an even run is left for the other pass; and every text is read
back (`literal_undoes_quote`).

Line breaks are not escaped. So what is written is a literal on one line exactly if the text is on
one line (`isLiteral_quote_iff`).
-/

namespace BeanMapper.Text

/-! ## Passes over a text -/

theorem replace_ofList (pattern replacement text : List Char) :
    replace (String.ofList pattern) (String.ofList replacement) (String.ofList text) =
      String.ofList (replaceFrom pattern replacement 0 text) := by
  simp only [replace, String.toList_ofList]

theorem replaceFrom_char (p : Char) (replacement text : List Char) :
    replaceFrom [p] replacement 0 text =
      text.flatMap fun c => if c = p then replacement else [c] := by
  induction text with
  | nil => rfl
  | cons c rest ih =>
    rw [replaceFrom, List.flatMap_cons, ← ih]
    by_cases h : c = p
    · simp [h, List.isPrefixOf]
    · simp [h, Ne.symm h, List.isPrefixOf]

variable {p q c : Char} {replacement text rest : List Char}

/-- A pair that is looked for is replaced where it stands. -/
theorem replaceFrom_pair (p q : Char) (replacement rest : List Char) :
    replaceFrom [p, q] replacement 0 (p :: q :: rest) =
      replacement ++ replaceFrom [p, q] replacement 0 rest := by
  simp [replaceFrom, List.isPrefixOf]

/-- A character that does not start the pair is kept. -/
theorem replaceFrom_pair_skip (h : c = p → q ∉ rest.head?) :
    replaceFrom [p, q] replacement 0 (c :: rest) =
      c :: replaceFrom [p, q] replacement 0 rest := by
  rw [replaceFrom, if_neg]
  intro hprefix
  simp only [List.isPrefixOf_cons_cons, Bool.and_eq_true, beq_iff_eq] at hprefix
  obtain ⟨hc, hq⟩ := hprefix
  cases rest with
  | nil => simp [List.isPrefixOf] at hq
  | cons d _ =>
    simp only [List.isPrefixOf, Bool.and_true, beq_iff_eq] at hq
    exact h hc.symm (by simp [hq])

/-! ## Escapes -/

def doubled (text : List Char) : List Char :=
  text.flatMap fun c => if c = '\\' then ['\\', '\\'] else [c]

theorem doubled_backslash (rest : List Char) :
    doubled ('\\' :: rest) = '\\' :: '\\' :: doubled rest := rfl

theorem doubled_cons (h : c ≠ '\\') (rest : List Char) :
    doubled (c :: rest) = c :: doubled rest := by
  simp [doubled, h]

theorem escape_cons (c : Char) (rest : List Char) :
    escape (c :: rest) = escapeChar c ++ escape rest := List.flatMap_cons

/-- Escaping is done in two passes. -/
theorem escape_eq_replaced (text : List Char) :
    escape text =
      replaceFrom ['"'] ['\\', '"'] 0 (replaceFrom ['\\'] ['\\', '\\'] 0 text) := by
  rw [replaceFrom_char, replaceFrom_char, List.flatMap_assoc, escape]
  refine List.flatMap_congr fun c _ => ?_
  by_cases hbackslash : c = '\\'
  · subst hbackslash
    rfl
  · by_cases hquote : c = '"'
    · subst hquote
      rfl
    · simp [escapeChar, hbackslash, hquote]

theorem quote_eq_replaced (text : String) :
    quote text = "\"" ++ replace "\"" "\\\"" (replace "\\" "\\\\" text) ++ "\"" := by
  have hpasses : replace "\"" "\\\"" (replace "\\" "\\\\" text) =
      String.ofList (escape text.toList) := by
    rw [escape_eq_replaced, ← replace_ofList, ← replace_ofList, String.ofList_toList]
  rw [hpasses, quote, String.ofList_append, String.ofList_cons]
  rfl

/-- No quote comes first in an escaped text: there is a backslash before it. -/
theorem quote_not_mem_head?_escape (text : List Char) : '"' ∉ (escape text).head? := by
  cases text with
  | nil => simp [escape]
  | cons c rest =>
    rw [escape_cons, escapeChar]
    split
    · simp
    · rename_i hplain
      simp only [List.cons_append, List.nil_append, List.head?_cons, Option.mem_some_iff]
      exact fun hc => hplain (Or.inr hc)

/-- The first pass over an escaped text takes away what the second pass put there. -/
theorem replace_quotes_escape (text : List Char) :
    replaceFrom ['\\', '"'] ['"'] 0 (escape text) = doubled text := by
  induction text with
  | nil => rfl
  | cons c rest ih =>
    have hhead := quote_not_mem_head?_escape rest
    rw [escape_cons, escapeChar]
    by_cases hquote : c = '"'
    · subst hquote
      rw [if_pos (Or.inr rfl), List.cons_append, List.cons_append, List.nil_append,
        replaceFrom_pair, ih, doubled_cons (by decide)]
      rfl
    · by_cases hbackslash : c = '\\'
      · subst hbackslash
        -- the second backslash may stand before another one, but not before a quote
        rw [if_pos (Or.inl rfl), List.cons_append, List.cons_append, List.nil_append,
          replaceFrom_pair_skip (by simp), replaceFrom_pair_skip fun _ => hhead, ih,
          doubled_backslash]
      · rw [if_neg (by simp [hquote, hbackslash]), List.singleton_append,
          replaceFrom_pair_skip fun hc => absurd hc hbackslash, ih, doubled_cons hbackslash]

theorem replace_backslashes_doubled (text : List Char) :
    replaceFrom ['\\', '\\'] ['\\'] 0 (doubled text) = text := by
  induction text with
  | nil => rfl
  | cons c rest ih =>
    by_cases hbackslash : c = '\\'
    · subst hbackslash
      rw [doubled_backslash, replaceFrom_pair, ih, List.singleton_append]
    · rw [doubled_cons hbackslash, replaceFrom_pair_skip fun hc => absurd hc hbackslash, ih]

theorem unescape_escape (text : String) :
    unescape (String.ofList (escape text.toList)) = text := by
  have hquotes : replace "\\\"" "\"" (String.ofList (escape text.toList)) =
      String.ofList (doubled text.toList) := by
    rw [← replace_quotes_escape]
    exact replace_ofList _ _ _
  have hbackslashes : replace "\\\\" "\\" (String.ofList (doubled text.toList)) = text :=
    calc replace "\\\\" "\\" (String.ofList (doubled text.toList))
        = String.ofList (replaceFrom ['\\', '\\'] ['\\'] 0 (doubled text.toList)) :=
          replace_ofList _ _ _
      _ = text := by rw [replace_backslashes_doubled, String.ofList_toList]
  rw [unescape, hquotes, hbackslashes]

/-! ## Reading literals -/

theorem unquote?_quote (text : String) : unquote? (quote text) = some text := by
  rw [unquote?, inQuotes?_quote, Option.map_some, unescape_escape]

/-- There is nothing to trim outside of the quotes. -/
theorem trim_quote (text : String) : trim (quote text) = quote text := by
  have hmark : isBlank '"' = false := by decide
  rw [trim, quote, String.toList_ofList, trimBoth, List.cons_append,
    List.dropWhile_cons_of_neg (by simp [hmark]), ← List.cons_append, List.reverse_append,
    List.reverse_singleton, List.singleton_append,
    List.dropWhile_cons_of_neg (by simp [hmark]), List.reverse_cons, List.reverse_reverse]

end BeanMapper.Text

namespace BeanMapper.Simulation

/-- **Texts survive quoting.** Reading a literal as a constant gives back the text that has been
quoted, and so does a constant that is assigned as it is, whatever the source value is. -/
theorem literal_undoes_quote (text : String) :
    literal (Text.quote text) = .text text ∧
      ∀ (simulator : Simulator) (source : Value) (presence : Presence),
        simulator.evaluate source (.direct (.constant (Text.quote text) .string) presence) =
          return .text text := by
  have hliteral : literal (Text.quote text) = .text text := by
    rw [literal, Text.trim_quote, Text.unquote?_quote]
  refine ⟨hliteral, fun simulator source presence => ?_⟩
  rw [Simulator.evaluate, SourceValue.constant, if_pos rfl, hliteral]

/-- A quote after backslashes, a backslash at the end, and blanks at both ends. -/
example : literal (Text.quote " \\\\\"\\ ") = .text " \\\\\"\\ " := by decide +kernel

end BeanMapper.Simulation

namespace BeanMapper.Text

/-! ## Well-formed literals -/

/-- One character of a text as it can stand in a literal: as it is, or after a backslash if it is a
quote or a backslash. -/
inductive LiteralUnit : List Char → Prop
  | plain {c : Char} (hquote : c ≠ '"') (hbackslash : c ≠ '\\') : LiteralUnit [c]
  | escaped {c : Char} (h : c = '"' ∨ c = '\\') : LiteralUnit ['\\', c]

/-- What stands between quotes splits into such units. -/
def IsSpelled (inside : List Char) : Prop :=
  ∃ units : List (List Char), inside = units.flatten ∧ ∀ unit ∈ units, LiteralUnit unit

/-- A text that takes more than one line. -/
def BreaksLine (text : List Char) : Prop := '\n' ∈ text ∨ '\r' ∈ text

/-- A well-formed literal: units between quotes, on one line. -/
def IsLiteral (literal : String) : Prop :=
  ∃ inside, literal.toList = '"' :: inside ++ ['"'] ∧ IsSpelled inside ∧ ¬BreaksLine inside

theorem literalUnit_escapeChar (c : Char) : LiteralUnit (escapeChar c) := by
  rw [escapeChar]
  split
  · rename_i h
    exact .escaped h.symm
  · rename_i h
    exact .plain (fun hquote => h (Or.inr hquote)) fun hbackslash => h (Or.inl hbackslash)

theorem isSpelled_escape (text : List Char) : IsSpelled (escape text) := by
  refine ⟨text.map escapeChar, List.flatMap_def, fun unit hunit => ?_⟩
  obtain ⟨c, -, rfl⟩ := List.mem_map.1 hunit
  exact literalUnit_escapeChar c

/-- Escaping adds backslashes and nothing else. -/
theorem mem_escape_iff (h : c ≠ '\\') : c ∈ escape text ↔ c ∈ text := by
  have hunit : ∀ d, c ∈ escapeChar d ↔ c = d := by
    intro d
    rw [escapeChar]
    split <;> simp [h]
  simp [escape, hunit]

theorem breaksLine_escape_iff : BreaksLine (escape text) ↔ BreaksLine text := by
  rw [BreaksLine, mem_escape_iff (by decide), mem_escape_iff (by decide), BreaksLine]

theorem toList_quote (text : String) :
    (quote text).toList = '"' :: escape text.toList ++ ['"'] := String.toList_ofList

/-- A text that breaks a line does so in its literal. -/
theorem isLiteral_quote (text : String) : IsLiteral (quote text) ↔ ¬BreaksLine text.toList := by
  rw [← breaksLine_escape_iff]
  constructor
  · rintro ⟨inside, hinside, -, hbreaks⟩
    rw [toList_quote, List.cons_append, List.cons_append, List.cons.injEq,
      List.append_left_inj] at hinside
    rw [hinside.2]
    exact hbreaks
  · exact fun hbreaks => ⟨_, toList_quote text, isSpelled_escape _, hbreaks⟩

/-- **What is written as a literal.** The literal of a text has quotes at both ends and well-formed
units between them, whatever the text is; and it is a well-formed literal exactly if there is no
line break in the text. -/
theorem isLiteral_quote_iff (text : String) :
    (∃ inside, (quote text).toList = '"' :: inside ++ ['"'] ∧ IsSpelled inside) ∧
      (IsLiteral (quote text) ↔ ¬BreaksLine text.toList) :=
  ⟨⟨_, toList_quote text, isSpelled_escape _⟩, isLiteral_quote text⟩

/-- A line feed stays in the literal as it is. -/
theorem not_always_literal : ¬∀ text : String, IsLiteral (quote text) := by
  intro h
  exact (isLiteral_quote "first\nsecond").1 (h _) (Or.inl (by decide))

end BeanMapper.Text
