import BeanMapper.Text.Blank
import BeanMapper.Text.Cut

/-!
String literals: a text between quotes, with a backslash before each quote and each backslash in it.
Reading is more liberal than writing: a quote needs no backslash inside a literal, and a backslash
before another character stands for itself.
-/

namespace BeanMapper.Text

/-- One character inside a literal. -/
def escapeChar (c : Char) : List Char := if c = '\\' ∨ c = '"' then ['\\', c] else [c]

/-- A text as it stands inside a literal. -/
def escape (text : List Char) : List Char := text.flatMap escapeChar

/-- The text that stands inside a literal: first the quotes lose their backslashes, then what is
left of doubled backslashes becomes single. -/
def unescape (text : String) : String := replace "\\\\" "\\" (replace "\\\"" "\"" text)

def quote (text : String) : String := String.ofList ('"' :: escape text.toList ++ ['"'])

/-- The text between quotes; a single quote is no pair of them. -/
def inQuotes? (text : List Char) : Option (List Char) :=
  match text with
  | '"' :: rest => if rest.getLast? = some '"' then some rest.dropLast else none
  | _ => none

/-- The text of a literal, if quotes stand at both ends. -/
def unquote? (text : String) : Option String :=
  (inQuotes? text.toList).map fun inside => unescape (String.ofList inside)

theorem inQuotes?_quote (text : String) :
    inQuotes? (quote text).toList = some (escape text.toList) := by
  simp [quote, inQuotes?]

end BeanMapper.Text
