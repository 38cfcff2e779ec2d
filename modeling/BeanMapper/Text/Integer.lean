/-!
Decimal integers of 64 bits: an optional sign and at least one digit.
-/

namespace BeanMapper.Text

/-- Whether a number has a signed representation in 64 bits. -/
def fitsInt64 (n : Int) : Bool := -9223372036854775808 ≤ n && n ≤ 9223372036854775807

/-- The number that decimal digits stand for. -/
def natural? (text : List Char) : Option Nat :=
  if !text.isEmpty && text.all Char.isDigit then some (Nat.ofDigitChars 10 text 0) else none

/-- The number that an optional sign and digits stand for, whatever its size. -/
def signed? : List Char → Option Int
  | '-' :: digits => (natural? digits).map fun n => -(n : Int)
  | '+' :: digits => (natural? digits).map fun n => (n : Int)
  | digits => (natural? digits).map fun n => (n : Int)

/-- The number that a text stands for, if it fits. -/
def int64? (text : String) : Option Int := (signed? text.toList).filter fitsInt64

theorem natural?_toDigits (n : Nat) : natural? (Nat.toDigits 10 n) = some n := by
  have digits : (Nat.toDigits 10 n).all Char.isDigit = true :=
    List.all_eq_true.2 fun c hc => Nat.isDigit_of_mem_toDigits (by decide) (by decide) hc
  simp [natural?, digits, Nat.toDigits_ne_nil]

end BeanMapper.Text
