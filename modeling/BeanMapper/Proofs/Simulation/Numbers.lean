import BeanMapper.Proofs.Conversion.Finding
import BeanMapper.Proofs.Simulation.Runs
import BeanMapper.Proofs.Text.Numerals

/-!
# Numbers and texts

A number that is converted to a text and from there to a number is the same number again, and a
text converts to a number exactly if it denotes one of 64 bits with blanks around it; where it does
not, the run fails with the text as it was given (`numbers_survive_texts`).
-/

namespace BeanMapper

namespace Simulation

open Conversion Run Text

section

variable {simulator : Simulator} {text target : Ty} {written : String} {given : Value} {n v : Int}
  {conversion : Conversion} {argument : Assignment} {heap between heap' : Heap}

/-! ## One conversion -/

theorem isPrimitive_or_unboxed (h : (primitiveOf? target).isSome) :
    (target.isPrimitive || target.unboxed?.isSome) = true := by
  cases target <;> simp_all [primitiveOf?, Ty.primitive?, Ty.isPrimitive, Ty.unboxed?]

theorem convert_integer (htext : text.isString = true) (n : Int) :
    convert text (.integer n) = pure (.text (toString n)) := by
  rw [convert, if_pos htext]

/-- A text converts to the number that it denotes. -/
theorem returns_convert_text_iff (h : (primitiveOf? target).isSome) :
    Returns (convert target (.text written)) heap (.integer v) heap' ↔
      (Denotes written v ∧ fitsInt64 v = true) ∧ heap' = heap := by
  rw [convert, if_pos (isPrimitive_or_unboxed h), ← int64?_trim_eq_some_iff]
  cases int64? (trim written) with
  | none => simp
  | some number => simp [eq_comm]

/-- A text that denotes no number of 64 bits is told as it was given. -/
theorem fails_convert_text_iff (h : (primitiveOf? target).isSome) :
    Fails (convert target (.text written)) heap (.conversion (.text written) target.text) heap' ↔
      (¬∃ v, Denotes written v ∧ fitsInt64 v = true) ∧ heap' = heap := by
  rw [convert, if_pos (isPrimitive_or_unboxed h)]
  simp only [← int64?_trim_eq_some_iff]
  cases int64? (trim written) with
  | none => simp
  | some number => simp

/-! ## Conversions of what an assignment produces -/

theorem returns_evaluate_convert {value result : Value}
    (h : Returns (simulator.evaluate given argument) heap value between) :
    Returns (simulator.evaluate given (.convert conversion argument)) heap result heap' ↔
      Returns (convert conversion.target value) between result heap' := by
  rw [Simulator.evaluate, returns_bind]
  constructor
  · rintro ⟨a, after, ha, hconvert⟩
    obtain ⟨rfl, rfl⟩ := ha.unique h
    exact hconvert
  · intro hconvert
    exact ⟨value, between, h, hconvert⟩

theorem fails_evaluate_convert {value : Value} {e : Failure}
    (h : Returns (simulator.evaluate given argument) heap value between) :
    Fails (simulator.evaluate given (.convert conversion argument)) heap e heap' ↔
      Fails (convert conversion.target value) between e heap' := by
  rw [Simulator.evaluate, fails_bind_of_returns h]

end

/-! ## From numbers to texts and back -/

/-- Between a primitive type or box, texts and another primitive type or box there are conversions.
A number of 64 bits survives the way there and back. A text becomes the number that it denotes, and
a failure that tells the text as it was given if it denotes none. -/
theorem numbers_survive_texts (simulator : Simulator) {source text target : Ty}
    (hsource : (primitiveOf? source).isSome) (htext : text.isString = true)
    (htarget : (primitiveOf? target).isSome) :
    ∃ print read : KnownConversion,
      find? simulator.table source text = some print ∧
      find? simulator.table text target = some read ∧
      (∀ n given argument heap heap', fitsInt64 n = true →
        Returns (simulator.evaluate given argument) heap (.integer n) heap' →
        Returns (simulator.evaluate given
            (.convert read.toConversion (.convert print.toConversion argument)))
          heap (.integer n) heap') ∧
      ∀ written given argument heap between,
        Returns (simulator.evaluate given argument) heap (.text written) between →
        (∀ v heap', Returns (simulator.evaluate given (.convert read.toConversion argument))
            heap (.integer v) heap' ↔
          (Denotes written v ∧ fitsInt64 v = true) ∧ heap' = between) ∧
        ∀ heap', Fails (simulator.evaluate given (.convert read.toConversion argument))
            heap (.conversion (.text written) target.text) heap' ↔
          (¬∃ v, Denotes written v ∧ fitsInt64 v = true) ∧ heap' = between := by
  obtain ⟨print, hprint⟩ := exists_find?_text simulator.table hsource htext
  obtain ⟨read, hread⟩ := exists_find?_of_text simulator.table htarget htext
  obtain ⟨-, rfl⟩ := types_of_find? hprint
  obtain ⟨-, rfl⟩ := types_of_find? hread
  refine ⟨print, read, hprint, hread, ?_, ?_⟩
  · intro n given argument heap heap' hn hargument
    -- the number is printed first, and its text denotes it
    have hprinted : Returns (simulator.evaluate given (.convert print.toConversion argument)) heap
        (.text (toString n)) heap' := by
      simp [returns_evaluate_convert hargument, convert_integer htext]
    rw [returns_evaluate_convert hprinted, returns_convert_text_iff htarget]
    exact ⟨⟨denotes_toString n, hn⟩, rfl⟩
  · intro written given argument heap between hargument
    constructor
    · intro v heap'
      rw [returns_evaluate_convert hargument, returns_convert_text_iff htarget]
    · intro heap'
      rw [fails_evaluate_convert hargument, fails_convert_text_iff htarget]

namespace Sizes

def size : Assignment := .direct (.ofParameter "size" (.primitive .long)) .unchecked

def simulator : Simulator := { table := {} }

/-- The least number survives, a sign and zeros are read, and one more than the greatest number
is not. -/
theorem sizes_survive_texts : (primitiveOf? (.primitive .long)).isSome ∧
    Ty.string.isString = true ∧ (primitiveOf? (.boxed .int)).isSome ∧
    ∃ print read : KnownConversion,
      find? simulator.table (.primitive .long) .string = some print ∧
      find? simulator.table .string (.boxed .int) = some read ∧
      Returns (simulator.evaluate (.integer (-9223372036854775808))
          (.convert read.toConversion (.convert print.toConversion size)))
        {} (.integer (-9223372036854775808)) {} ∧
      Returns (simulator.evaluate (.text " +007\t") (.convert read.toConversion size))
        {} (.integer 7) {} ∧
      Fails (simulator.evaluate (.text " 9223372036854775808") (.convert read.toConversion size))
        {} (.conversion (.text " 9223372036854775808") "java.lang.Integer") {} := by
  have hgiven (given : Value) : Returns (simulator.evaluate given size) {} given {} := rfl
  have hseven : Denotes " +007\t" 7 ∧ fitsInt64 7 = true := int64?_trim_eq_some_iff.1 (by decide)
  have hlarge : ¬∃ v, Denotes " 9223372036854775808" v ∧ fitsInt64 v = true := by
    rintro ⟨v, hv⟩
    have hread := int64?_trim_eq_some_iff.2 hv
    rw [show int64? (trim " 9223372036854775808") = none by decide] at hread
    cases hread
  obtain ⟨print, read, hprint, hread, hnumbers, htexts⟩ :=
    @numbers_survive_texts simulator (.primitive .long) .string (.boxed .int) rfl rfl rfl
  exact ⟨rfl, rfl, rfl, print, read, hprint, hread, hnumbers _ _ _ _ _ (by decide) (hgiven _),
    ((htexts _ _ _ _ _ (hgiven _)).1 7 {}).2 ⟨hseven, rfl⟩,
    ((htexts _ _ _ _ _ (hgiven _)).2 {}).2 ⟨hlarge, rfl⟩⟩

end Sizes

end Simulation

end BeanMapper
