import BeanMapper.Text.CaseTable

/-!
Full case mapping of single characters, without regard to their neighbours or to a language, and
its use on the first character of a name.
-/

namespace BeanMapper.Text

/-- The image of a code point in a table of rows, if a row holds it. -/
def caseRow? (rows : List (Nat × Nat × Nat × Nat)) (n : Nat) : Option Nat :=
  (rows.find? fun r => r.1 ≤ n && n ≤ r.2.1 && (n - r.1) % r.2.2.1 == 0).map
    fun r => r.2.2.2 + (n - r.1)

/-- A character under a table of expansions and one of rows; one in neither is its own image. -/
def caseImage (expansions : List (Nat × List Nat)) (rows : List (Nat × Nat × Nat × Nat))
    (c : Char) : List Char :=
  match expansions.lookup c.toNat with
  | some codes => codes.map Char.ofNat
  | none => [((caseRow? rows c.toNat).map Char.ofNat).getD c]

/-- The upper case of a character, which may take several characters. -/
def upper (c : Char) : List Char :=
  if c.toNat < 128 then [c.toUpper] else caseImage upperExpansions upperRows c

/-- The lower case of a character, which may take several characters. -/
def lower (c : Char) : List Char :=
  if c.toNat < 128 then [c.toLower] else caseImage lowerExpansions lowerRows c

/-- The name with its first character in the given case. -/
def mapFirst (f : Char → List Char) (name : String) : String :=
  match name.toList with
  | [] => name
  | c :: rest => String.ofList (f c ++ rest)

def capitalize (name : String) : String := mapFirst upper name

def decapitalize (name : String) : String := mapFirst lower name

end BeanMapper.Text
