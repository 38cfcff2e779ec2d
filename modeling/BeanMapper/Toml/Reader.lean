import BeanMapper.Text.Integer
import BeanMapper.Toml.Tree

/-!
TOML statements read from text. Each reader takes the characters still to be read and gives what it
read and what is left, or nothing if the text is malformed. Values are strings of all four kinds,
integers, booleans, arrays and inline tables. Fuel is the number of characters and a little more,
for every nested reading takes at least one.
-/

namespace BeanMapper.Toml

/-- Keys have fewer parts than this, and brackets and braces are nested less deeply. -/
def nestingLimit : Nat := 80

/-! ## Blanks -/

/-- Whether a character separates tokens within a line. -/
def isSpace (c : Char) : Bool := c == ' ' || c == '\t'

/-- Whether a character may stand in a comment or a string on one line. -/
def isPrintable (c : Char) : Bool := c == '\t' || (0x20 ≤ c.toNat && c.toNat ≠ 0x7F)

def skipSpaces (text : List Char) : List Char := text.dropWhile isSpace

def skipComment : List Char → List Char
  | '#' :: rest => rest.dropWhile isPrintable
  | text => text

/-- Takes the end of a line, or nothing at the end of the text. -/
def lineEnd? : List Char → Option (List Char)
  | [] => some []
  | '\n' :: rest => some rest
  | '\r' :: '\n' :: rest => some rest
  | _ => none

def skipLines : Nat → List Char → List Char
  | 0, text => text
  | fuel + 1, text =>
    match skipComment (skipSpaces text) with
    | '\n' :: rest => skipLines fuel rest
    | '\r' :: '\n' :: rest => skipLines fuel rest
    | rest => rest

/-! ## Numbers -/

/-- The value of a digit in a base up to sixteen. -/
def digit? (base : Nat) (c : Char) : Option Nat :=
  let n := c.toNat
  let d :=
    if 48 ≤ n ∧ n ≤ 57 then n - 48
    else if 97 ≤ n ∧ n ≤ 102 then n - 87
    else if 65 ≤ n ∧ n ≤ 70 then n - 55
    else base
  if d < base then some d else none

/-- The number written by digits; an underscore may stand between two of them. -/
def digitsValue (base : Nat) : Nat → List Char → Option Nat
  | value, [] => some value
  | value, '_' :: c :: rest => do digitsValue base (value * base + (← digit? base c)) rest
  | value, c :: rest => do digitsValue base (value * base + (← digit? base c)) rest

/-- The number written by at least one digit. -/
def natural? (base : Nat) : List Char → Option Nat
  | [] => none
  | c :: rest => do digitsValue base (← digit? base c) rest

/-- The decimal number written without a leading zero. -/
def decimal? : List Char → Option Nat
  | ['0'] => some 0
  | '0' :: _ => none
  | text => natural? 10 text

/-- The integer that a word denotes, within 64 bits. -/
def integer? (word : List Char) : Option Int := do
  let number : Int ← match word with
    | '+' :: rest => (decimal? rest).map Int.ofNat
    | '-' :: rest => (decimal? rest).map fun n => -(n : Int)
    | '0' :: 'x' :: rest => (natural? 16 rest).map Int.ofNat
    | '0' :: 'o' :: rest => (natural? 8 rest).map Int.ofNat
    | '0' :: 'b' :: rest => (natural? 2 rest).map Int.ofNat
    | rest => (decimal? rest).map Int.ofNat
  if Text.fitsInt64 number then some number else none

/-! ## Strings -/

/-- The character of a code written by a number of hexadecimal digits. -/
def codePoint (digits : Nat) (text : List Char) : Option (Char × List Char) := do
  if text.length < digits ∨ '_' ∈ text.take digits then none
  let code ← natural? 16 (text.take digits)
  if h : code.isValidChar then some (Char.ofNatAux code h, text.drop digits) else none

/-- The character of an escape, read after its backslash. -/
def escape : List Char → Option (Char × List Char)
  | 'b' :: rest => some ('\x08', rest)
  | 't' :: rest => some ('\t', rest)
  | 'n' :: rest => some ('\n', rest)
  | 'f' :: rest => some ('\x0c', rest)
  | 'r' :: rest => some ('\r', rest)
  | '"' :: rest => some ('"', rest)
  | '\\' :: rest => some ('\\', rest)
  | 'u' :: rest => codePoint 4 rest
  | 'U' :: rest => codePoint 8 rest
  | _ => none

/-- Reads a string on one line after its opening quote, with escapes. -/
def basicString : Nat → List Char → Option (List Char × List Char)
  | 0, _ => none
  | fuel + 1, text =>
    match text with
    | '"' :: rest => some ([], rest)
    | '\\' :: rest => do
      let (c, rest) ← escape rest
      let (cs, rest) ← basicString fuel rest
      some (c :: cs, rest)
    | c :: rest => do
      if !isPrintable c then none
      let (cs, rest) ← basicString fuel rest
      some (c :: cs, rest)
    | [] => none

/-- Reads a string on one line after its opening apostrophe, without escapes. -/
def literalString : List Char → Option (List Char × List Char)
  | [] => none
  | '\'' :: rest => some ([], rest)
  | c :: rest =>
    if isPrintable c then (literalString rest).map fun (cs, rest) => (c :: cs, rest) else none

/-- The quotes that a string over several lines ends with: up to two that belong to it, then the
three that close it. -/
def closingQuotes? (quotes : List Char) : Option (List Char) :=
  if quotes.length ≤ 5 then some (quotes.drop 3) else none

/-- The text without the line breaks and spaces it starts with. After a backslash at the end of a
line they are no part of a string. -/
def skipFolded : List Char → List Char
  | ' ' :: rest => skipFolded rest
  | '\t' :: rest => skipFolded rest
  | '\n' :: rest => skipFolded rest
  | '\r' :: '\n' :: rest => skipFolded rest
  | text => text

/-- Reads a string over several lines after its opening quotes; a line end counts as a line feed. -/
def longString (quote : Char) (escapes : Bool) : Nat → List Char → Option (List Char × List Char)
  | 0, _ => none
  | fuel + 1, text =>
    let quotes := text.takeWhile (· == quote)
    if 3 ≤ quotes.length then
      (closingQuotes? quotes).map fun inside => (inside, text.drop quotes.length)
    else
      match text with
      | [] => none
      | c :: rest =>
        if c == '\\' && escapes then
          match lineEnd? (skipSpaces rest) with
          | some after =>
            if after.isEmpty then none else longString quote escapes fuel (skipFolded after)
          | none => do
            let (d, rest) ← escape rest
            let (cs, rest) ← longString quote escapes fuel rest
            some (d :: cs, rest)
        else if c == '\r' && rest.head? == some '\n' then longString quote escapes fuel rest
        else if isPrintable c || c == '\n' then do
          let (cs, rest) ← longString quote escapes fuel rest
          some (c :: cs, rest)
        else none

/-- The text after a line end that directly follows the opening quotes. -/
def afterOpening : List Char → List Char
  | '\n' :: rest => rest
  | '\r' :: '\n' :: rest => rest
  | text => text

/-! ## Keys -/

/-- Whether a key can hold the character without quotes. -/
def isBare (c : Char) : Bool := c.isAlphanum || c == '_' || c == '-'

def keyPart (text : List Char) : Option (String × List Char) :=
  match text with
  | '"' :: rest => (basicString (rest.length + 1) rest).map fun (cs, r) => (String.ofList cs, r)
  | '\'' :: rest => (literalString rest).map fun (cs, r) => (String.ofList cs, r)
  | _ =>
    let word := text.takeWhile isBare
    if word.isEmpty then none else some (String.ofList word, text.dropWhile isBare)

/-- Reads a dotted key of a limited number of parts. -/
def readParts : Nat → List Char → Option (List String × List Char)
  | 0, _ => none
  | room + 1, text => do
    let (part, rest) ← keyPart (skipSpaces text)
    match skipSpaces rest with
    | '.' :: rest =>
      let (parts, rest) ← readParts room rest
      some (part :: parts, rest)
    | rest => some ([part], rest)

def readKey (text : List Char) : Option (List String × List Char) :=
  readParts (nestingLimit - 1) text

/-! ## Values -/

/-- Whether a word that stands for a number or a truth value can hold the character. -/
def isWord (c : Char) : Bool := c.isAlphanum || c == '_' || c == '+' || c == '-' || c == '.'

/-- The value of a word. -/
def word? (word : List Char) : Option Value :=
  if word = "true".toList then some (.boolean true)
  else if word = "false".toList then some (.boolean false)
  else (integer? word).map .integer

mutual

/-- Reads a value, given how many brackets and braces it may nest. -/
def readValue : Nat → Nat → List Char → Option (Value × List Char)
  | 0, _, _ => none
  | fuel + 1, room, text =>
    match text with
    | '"' :: '"' :: '"' :: rest => do
      let (cs, rest) ← longString '"' true (rest.length + 1) (afterOpening rest)
      some (.string (String.ofList cs), rest)
    | '\'' :: '\'' :: '\'' :: rest => do
      let (cs, rest) ← longString '\'' false (rest.length + 1) (afterOpening rest)
      some (.string (String.ofList cs), rest)
    | '"' :: rest => do
      let (cs, rest) ← basicString (rest.length + 1) rest
      some (.string (String.ofList cs), rest)
    | '\'' :: rest => do
      let (cs, rest) ← literalString rest
      some (.string (String.ofList cs), rest)
    | '[' :: rest => do
      if room = 0 then none
      let (items, rest) ← readItems fuel (room - 1) rest
      some (.array items, rest)
    | '\x7b' :: rest => do
      if room = 0 then none
      match skipSpaces rest with
      | '\x7d' :: rest => some (.table [], rest)
      | rest =>
        let (assignments, rest) ← readEntries fuel (room - 1) rest
        some (← tableOf? assignments, rest)
    | _ => (word? (text.takeWhile isWord)).map fun value => (value, text.dropWhile isWord)

def readItems : Nat → Nat → List Char → Option (List Value × List Char)
  | 0, _, _ => none
  | fuel + 1, room, text =>
    match skipLines (text.length + 1) text with
    | ']' :: rest => some ([], rest)
    | text => do
      let (item, rest) ← readValue fuel room text
      match skipLines (rest.length + 1) rest with
      | ',' :: rest =>
        let (items, rest) ← readItems fuel room rest
        some (item :: items, rest)
      | ']' :: rest => some ([item], rest)
      | _ => none

def readEntries : Nat → Nat → List Char → Option (List (List String × Value) × List Char)
  | 0, _, _ => none
  | fuel + 1, room, text => do
    let (key, rest) ← readKey text
    match rest with
    | '=' :: rest =>
      let (value, rest) ← readValue fuel room (skipSpaces rest)
      match skipSpaces rest with
      | ',' :: rest =>
        let (assignments, rest) ← readEntries fuel room rest
        some ((key, value) :: assignments, rest)
      | '\x7d' :: rest => some ([(key, value)], rest)
      | _ => none
    | _ => none

end

/-! ## Statements -/

/-- Reads the rest of a line, which may hold a comment and nothing else. -/
def finishLine (text : List Char) : Option (List Char) := lineEnd? (skipComment (skipSpaces text))

/-- Reads one statement and the line end after it. -/
def readStatement (text : List Char) : Option (Statement × List Char) := do
  match text with
  | '[' :: '[' :: rest =>
    let (key, rest) ← readKey rest
    match rest with
    | ']' :: ']' :: rest => some (.arrayHeader key, ← finishLine rest)
    | _ => none
  | '[' :: rest =>
    let (key, rest) ← readKey rest
    match rest with
    | ']' :: rest => some (.header key, ← finishLine rest)
    | _ => none
  | _ =>
    let (key, rest) ← readKey text
    match rest with
    | '=' :: rest =>
      let (value, rest) ← readValue (text.length + 1) (nestingLimit - 1) (skipSpaces rest)
      some (.assign key value, ← finishLine rest)
    | _ => none

def readStatements : Nat → List Char → Option (List Statement)
  | 0, _ => none
  | fuel + 1, text =>
    match skipLines (text.length + 1) text with
    | [] => some []
    | text => do
      let (statement, rest) ← readStatement text
      some (statement :: (← readStatements fuel rest))

end BeanMapper.Toml
