import BeanMapper.Proofs.Text.Blanks
import BeanMapper.Text.Integer
import Mathlib.Data.List.Induction

/-!
# Numerals

A numeral is a run of decimal digits, with a sign before it or none, and the digits say digit by
digit what number it denotes (`Decimal`, `Numeral`). Reading a text accepts exactly the numerals
with blanks around them whose number fits into 64 bits (`int64?_trim_eq_some_iff`), and every such
number is written as a numeral that denotes it (`numeral_toString`).
-/

namespace BeanMapper.Text

variable {text digits : List Char} {n : Nat} {v : Int}

/-! ## Digits -/

/-- A run of digits denotes a number. -/
inductive Decimal : List Char → Nat → Prop where
  | digit {c : Char} (h : c.isDigit = true) : Decimal [c] (c.toNat - '0'.toNat)
  | more {digits : List Char} {n : Nat} {c : Char} (h : Decimal digits n)
    (hc : c.isDigit = true) : Decimal (digits ++ [c]) (10 * n + (c.toNat - '0'.toNat))

theorem Decimal.isDigit (h : Decimal digits n) : ∀ c ∈ digits, c.isDigit = true := by
  induction h with
  | digit h => simpa using h
  | more _ hc ih =>
    intro c hmem
    rcases List.mem_append.1 hmem with hmem | hmem
    · exact ih c hmem
    · rw [List.mem_singleton.1 hmem]
      exact hc

theorem Decimal.ne_nil (h : Decimal digits n) : digits ≠ [] := by
  cases h <;> simp

theorem Decimal.value_eq (h : Decimal digits n) : Nat.ofDigitChars 10 digits 0 = n := by
  induction h with
  | digit h => simp [Nat.ofDigitChars]
  | more _ _ ih => simp [Nat.ofDigitChars_append, Nat.ofDigitChars_cons, ih]

/-- Every run of digits denotes a number, by induction from its last digit. -/
theorem decimal_ofDigitChars (hne : digits ≠ []) (hdigits : ∀ c ∈ digits, c.isDigit = true) :
    Decimal digits (Nat.ofDigitChars 10 digits 0) := by
  induction digits using List.reverseRecOn with
  | nil => exact absurd rfl hne
  | append_singleton front last ih =>
    have hlast := hdigits last (by simp)
    by_cases hfront : front = []
    · subst hfront
      simpa [Nat.ofDigitChars] using Decimal.digit hlast
    · have hdecimal := ih hfront fun c hc => hdigits c (by simp [hc])
      simpa [Nat.ofDigitChars_append, Nat.ofDigitChars_cons] using hdecimal.more hlast

theorem natural?_eq_some_iff : natural? digits = some n ↔ Decimal digits n := by
  unfold natural?
  constructor
  · intro h
    split at h
    · rename_i hdigits
      simp only [Bool.and_eq_true, Bool.not_eq_true', List.isEmpty_eq_false_iff,
        List.all_eq_true] at hdigits
      cases h
      exact decimal_ofDigitChars hdigits.1 hdigits.2
    · cases h
  · intro h
    have hdigits : (!digits.isEmpty && digits.all Char.isDigit) = true := by
      simpa [h.ne_nil] using h.isDigit
    rw [if_pos hdigits, h.value_eq]

/-! ## Signs -/

/-- A text denotes a number: by digits, which may have a sign before them. -/
inductive Numeral : List Char → Int → Prop where
  | unsigned {digits : List Char} {n : Nat} (h : Decimal digits n) : Numeral digits n
  | positive {digits : List Char} {n : Nat} (h : Decimal digits n) : Numeral ('+' :: digits) n
  | negative {digits : List Char} {n : Nat} (h : Decimal digits n) : Numeral ('-' :: digits) (-n)

theorem not_decimal_cons {c : Char} (h : c.isDigit = false) : ¬Decimal (c :: digits) n := by
  intro hdecimal
  rw [hdecimal.isDigit c List.mem_cons_self] at h
  cases h

/-- What digits are read as behind a sign that does something to their number. -/
theorem signed_digits_eq_some_iff {f : Int → Int} :
    (do let n ← natural? digits; pure (n : Int)).map f = some v ↔
      ∃ n : Nat, Decimal digits n ∧ v = f n := by
  simp only [Option.map_eq_some_iff, Option.bind_eq_bind, Option.bind_eq_some_iff,
    natural?_eq_some_iff, Option.pure_def, Option.some.injEq]
  constructor
  · rintro ⟨m, ⟨n, hn, rfl⟩, rfl⟩
    exact ⟨n, hn, rfl⟩
  · rintro ⟨n, hn, rfl⟩
    exact ⟨n, ⟨n, hn, rfl⟩, rfl⟩

theorem signed?_eq_some_iff : signed? text = some v ↔ Numeral text v := by
  unfold signed?
  split
  · rw [signed_digits_eq_some_iff]
    constructor
    · rintro ⟨n, hn, rfl⟩
      exact .negative hn
    · intro h
      cases h with
      | unsigned h => exact absurd h (not_decimal_cons rfl)
      | negative h => exact ⟨_, h, rfl⟩
  · rw [signed_digits_eq_some_iff]
    constructor
    · rintro ⟨n, hn, rfl⟩
      exact .positive hn
    · intro h
      cases h with
      | unsigned h => exact absurd h (not_decimal_cons rfl)
      | positive h => exact ⟨_, h, rfl⟩
  · rename_i hminus hplus
    rw [signed_digits_eq_some_iff]
    constructor
    · rintro ⟨n, hn, rfl⟩
      exact .unsigned hn
    · intro h
      cases h with
      | unsigned h => exact ⟨_, h, rfl⟩
      | positive h => exact absurd rfl (hplus _)
      | negative h => exact absurd rfl (hminus _)

/-! ## Numbers of 64 bits -/

theorem int64?_eq_some_iff {text : String} :
    int64? text = some v ↔ Numeral text.toList v ∧ fitsInt64 v = true := by
  rw [int64?, Option.filter_eq_some_iff, signed?_eq_some_iff]

theorem isBlank_of_isDigit {c : Char} (h : c.isDigit = true) : isBlank c = false := by
  have hrange : 48 ≤ c.toNat ∧ c.toNat ≤ 57 := by
    simpa [Char.isDigit, UInt32.le_iff_toNat_le] using h
  simp only [isBlank, Bool.or_eq_false_iff, Bool.and_eq_false_iff, decide_eq_false_iff_not,
    beq_eq_false_iff_ne]
  omega

/-- No numeral holds a blank. -/
theorem Numeral.isBlank (h : Numeral text v) : ∀ c ∈ text, isBlank c = false := by
  have hdigits : ∀ {digits n}, Decimal digits n → ∀ c ∈ digits, Text.isBlank c = false :=
    fun hdecimal c hc => isBlank_of_isDigit (hdecimal.isDigit c hc)
  cases h with
  | unsigned h => exact hdigits h
  | positive h => exact List.forall_mem_cons.2 ⟨rfl, hdigits h⟩
  | negative h => exact List.forall_mem_cons.2 ⟨rfl, hdigits h⟩

/-- A text denotes a number by a numeral with blanks around it. -/
def Denotes (text : String) (v : Int) : Prop :=
  ∃ before numeral after, IsBlanks before ∧ IsBlanks after ∧ Numeral numeral v ∧
    text.toList = before ++ numeral ++ after

/-- A trimmed text is read as a number exactly if it denotes that number with the blanks around it,
and the number fits. -/
theorem int64?_trim_eq_some_iff {text : String} :
    int64? (trim text) = some v ↔ Denotes text v ∧ fitsInt64 v = true := by
  rw [int64?_eq_some_iff]
  refine and_congr_left fun _ => ⟨fun h => ?_, ?_⟩
  · obtain ⟨before, after, hbefore, hafter, htext⟩ := exists_trim text
    exact ⟨before, _, after, hbefore, hafter, h, htext⟩
  · rintro ⟨before, numeral, after, hbefore, hafter, h, htext⟩
    rw [trim_eq hbefore hafter h.isBlank htext, String.toList_ofList]
    exact h

/-! ## Written numbers -/

theorem decimal_toDigits (n : Nat) : Decimal (Nat.toDigits 10 n) n :=
  natural?_eq_some_iff.1 (natural?_toDigits n)

/-- A number is written as a numeral that denotes it. -/
theorem numeral_toString (v : Int) : Numeral (toString v).toList v := by
  have hnat (n : Nat) : n.repr.toList = Nat.toDigits 10 n := by
    rw [Nat.repr_eq_ofList_toDigits, String.toList_ofList]
  cases v with
  | ofNat n =>
    change Numeral n.repr.toList n
    rw [hnat]
    exact .unsigned (decimal_toDigits n)
  | negSucc n =>
    change Numeral ("-" ++ (n + 1).repr).toList (-((n + 1 : Nat) : Int))
    rw [String.toList_append, hnat]
    exact .negative (decimal_toDigits (n + 1))

theorem denotes_toString (v : Int) : Denotes (toString v) v :=
  ⟨[], _, [], isBlanks_nil, isBlanks_nil, numeral_toString v, by simp⟩

end BeanMapper.Text
