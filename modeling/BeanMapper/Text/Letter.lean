import BeanMapper.Text.LetterTable

/-!
Letters and numbers of all scripts. ASCII is decided by its own classes, so the tables are
consulted only for what lies beyond it.
-/

namespace BeanMapper.Text

/-- Whether a code point lies in one of the ranges. -/
def inRanges (ranges : List (Nat × Nat)) (n : Nat) : Bool :=
  ranges.any fun r => r.1 ≤ n && n ≤ r.2

/-- Whether a character is alphabetic. -/
def isLetter (c : Char) : Bool :=
  c.isAlpha || (128 ≤ c.toNat && inRanges letters c.toNat)

/-- Whether a character is a number of any kind: decimal digit, letter-like or other. -/
def isNumber (c : Char) : Bool :=
  c.isDigit || (128 ≤ c.toNat && inRanges numbers c.toNat)

def isLetterOrNumber (c : Char) : Bool := isLetter c || isNumber c

end BeanMapper.Text
