import BeanMapper.Text.Blank
import BeanMapper.Text.Letter
import BeanMapper.Type.Platform

/-!
Types read from text. A reader takes the characters still to be read and answers with what it read
and what is left, or with the characters at which it stopped; since these are a tail of the text,
they tell the position of the error. Simple names mean a class of `java.lang` if there is one, else
a class without a package, else a type variable.
-/

namespace BeanMapper

/-- Why a text is no type. -/
inductive TypeSyntaxError where
  | unexpectedEnd (text : String)
  | unexpectedChar (text : String) (char : Char) (offset : Nat)
  deriving DecidableEq, Repr

namespace TypeSyntaxError

/-- The error of a text whose reader stopped before `rest`. Offsets count bytes in UTF-8. -/
def ofRest (text : String) : List Char → TypeSyntaxError
  | [] => unexpectedEnd text
  | c :: rest =>
    unexpectedChar text c (text.utf8ByteSize - (String.ofList (c :: rest)).utf8ByteSize)

def message : TypeSyntaxError → String
  | unexpectedEnd text => s!"unexpected end of type `{text}`"
  | unexpectedChar text char offset =>
    "unexpected `" ++ String.singleton char ++ s!"` at offset {offset} in type `{text}`"

end TypeSyntaxError

namespace ClassTable

/-- What a name alone means. -/
def resolveName (table : ClassTable) (name : String) : Ty :=
  match Primitive.ofName? name with
  | some p => .primitive p
  | none =>
    if name = "void" then .void
    else if '.' ∈ name.toList then .named name
    else if table.declares ("java.lang." ++ name) then .named ("java.lang." ++ name)
    else if table.declares name then .named name
    else .typeVar name

/-! ## Readers -/

def startsName (c : Char) : Bool := Text.isLetter c || c == '_' || c == '$'

def continuesName (c : Char) : Bool :=
  Text.isLetterOrNumber c || c == '_' || c == '$' || c == '.'

/-- Reads a dotted name after blanks. -/
def readName (text : List Char) : Except (List Char) (String × List Char) :=
  match Text.skipBlanks text with
  | [] => .error []
  | c :: rest =>
    if startsName c then
      .ok (String.ofList (c :: rest.takeWhile continuesName), rest.dropWhile continuesName)
    else .error (c :: rest)

/-- Reads pairs of brackets, each of which makes the type an array. -/
def readBrackets : Nat → Ty → List Char → Except (List Char) (Ty × List Char)
  | 0, ty, text => .ok (ty, text)
  | fuel + 1, ty, text =>
    match Text.skipBlanks text with
    | '[' :: rest =>
      match Text.skipBlanks rest with
      | ']' :: rest => readBrackets fuel (.array ty) rest
      | rest => .error rest
    | rest => .ok (ty, rest)

/-- Whether the text goes on with the keyword of a bounded wildcard. -/
def startsBound (text : List Char) : Bool :=
  "extends".toList.isPrefixOf text || "super".toList.isPrefixOf text

mutual

/-- Reads a type after blanks. A wildcard means its bound, or the root of all classes. -/
def readType (table : ClassTable) :
    Nat → List Char → Except (List Char) (Ty × List Char)
  | 0, text => .error text
  | fuel + 1, text =>
    match Text.skipBlanks text with
    | '?' :: rest =>
      let rest := Text.skipBlanks rest
      if startsBound rest then do
        let (_, rest) ← readName rest
        readType table fuel rest
      else .ok (.object, rest)
    | text => do
      let (name, rest) ← readName text
      let head := table.resolveName name
      match Text.skipBlanks rest with
      | '<' :: rest => do
        let (first, rest) ← readType table fuel rest
        let (more, rest) ← readArgs table fuel rest
        readBrackets fuel (.declared head.qualifiedName (first :: more)) rest
      | rest => readBrackets fuel head rest

/-- Reads the arguments that follow the first one, up to the closing bracket. -/
def readArgs (table : ClassTable) :
    Nat → List Char → Except (List Char) (List Ty × List Char)
  | 0, text => .error text
  | fuel + 1, text =>
    match Text.skipBlanks text with
    | ',' :: rest => do
      let (arg, rest) ← readType table fuel rest
      let (more, rest) ← readArgs table fuel rest
      .ok (arg :: more, rest)
    | '>' :: rest => .ok ([], rest)
    | rest => .error rest

end

/-- The type that a text denotes. Each nested reading takes at least one character, so one unit of
fuel more than there are characters is enough. -/
def parse (table : ClassTable) (text : String) : Except TypeSyntaxError Ty :=
  match readType table (text.toList.length + 1) text.toList with
  | .error rest => .error (.ofRest text rest)
  | .ok (ty, rest) =>
    match Text.skipBlanks rest with
    | [] => .ok ty
    | rest => .error (.ofRest text rest)

end ClassTable

end BeanMapper
