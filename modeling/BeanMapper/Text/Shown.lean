import BeanMapper.Text.Letter
import BeanMapper.Text.ShownTable

/-!
Texts as messages show them: between quotation marks, and with an escape for every character that
would not be seen for what it is. Besides the controls these are the characters without a form of
their own, such as a soft hyphen or a combining accent.
-/

namespace BeanMapper.Text

/-- Whether a message shows a character as it is. -/
def isShown (c : Char) : Bool :=
  let n := c.toNat
  if n < 128 then 0x20 ≤ n && n ≠ 0x7F else !inRanges concealed n

/-- A character as messages show it. -/
def shownChar (c : Char) : String :=
  if c = '"' then "\\\""
  else if c = '\\' then "\\\\"
  else if c = '\n' then "\\n"
  else if c = '\r' then "\\r"
  else if c = '\t' then "\\t"
  else if c = '\x00' then "\\0"
  else if isShown c then String.singleton c
  else "\\u\x7b" ++ String.ofList (Nat.toDigits 16 c.toNat) ++ "\x7d"

/-- A text as messages show it. -/
def shown (text : String) : String := "\"" ++ String.join (text.toList.map shownChar) ++ "\""

end BeanMapper.Text
