/-!
Blank characters: the code points with the Unicode property White_Space, and the removal of blanks
at both ends of a text.
-/

namespace BeanMapper.Text

/-- Whether a character has the property White_Space. -/
def isBlank (c : Char) : Bool :=
  let n := c.toNat
  (0x9 ≤ n && n ≤ 0xD) || n == 0x20 || n == 0x85 || n == 0xA0 || n == 0x1680 ||
    (0x2000 ≤ n && n ≤ 0x200A) || n == 0x2028 || n == 0x2029 || n == 0x202F || n == 0x205F ||
    n == 0x3000

/-- The text without the blanks it starts with. -/
def skipBlanks (text : List Char) : List Char := text.dropWhile isBlank

/-- The text without the members of a class at either end. -/
def trimBoth (drop : Char → Bool) (text : List Char) : List Char :=
  (((text.dropWhile drop).reverse).dropWhile drop).reverse

def trim (text : String) : String := String.ofList (trimBoth isBlank text.toList)

end BeanMapper.Text
