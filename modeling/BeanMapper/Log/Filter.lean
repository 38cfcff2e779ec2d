import BeanMapper.Text.Blank
import BeanMapper.Text.Cut
import BeanMapper.Text.Integer
import BeanMapper.Text.Letter

/-!
Log filters: lists of directives, each of which sets a level for one target or for all targets that
no other directive names. A filter keeps one directive per target, the last one given, and puts the
targets that are most specific first.
-/

namespace BeanMapper.Log

/-- How much is logged, from nothing to everything. -/
inductive Level where
  | off
  | error
  | warn
  | info
  | debug
  | trace
  deriving DecidableEq, Repr

def Level.all : List Level := [.off, .error, .warn, .info, .debug, .trace]

def Level.name : Level → String
  | .off => "off"
  | .error => "error"
  | .warn => "warn"
  | .info => "info"
  | .debug => "debug"
  | .trace => "trace"

def asciiLower (text : String) : String := String.ofList (text.toList.map Char.toLower)

/-- The level of a number: the levels are counted from zero. -/
def Level.ofNumber? (text : String) : Option Level := do
  let digits := match text.toList with
    | '+' :: rest => rest
    | chars => chars
  Level.all[← Text.natural? digits]?

/-- The level of a number or of a name in letters of any case. -/
def Level.ofText? (text : String) : Option Level :=
  match Level.ofNumber? text with
  | some level => some level
  | none => Level.all.find? fun level => level.name == asciiLower text

/-- A level for one target, or for all others. -/
structure Directive where
  target : Option String
  level : Level
  deriving DecidableEq, Repr

/-- Whether a directive can start with the character. -/
def startsDirective (c : Char) : Bool :=
  Text.isLetterOrNumber c || c == '-' || c == ':' || c == '_'

/-- The directive that an item of a list denotes: a level, a target that is logged in full, or a
target with its level. Blanks belong to a target, but cannot stand before one that has a level. -/
def Directive.parse? (item : String) : Option Directive := do
  let first ← (Text.skipBlanks item.toList).head?
  if !startsDirective first then none
  match Text.splitFirst? '=' item.toList with
  | some (target, level) => do
    if target.head?.any Text.isBlank then none
    if level.isEmpty then some ⟨some (String.ofList target), .trace⟩
    else
      (Level.ofText? (String.ofList level)).map fun level => ⟨some (String.ofList target), level⟩
  | none =>
    match Level.ofText? item with
    | some level => some ⟨none, level⟩
    | none => some ⟨some item, .trace⟩

/-- Whether a directive stands before another: longer targets come first, of equal length the
greater name, and the directive without a target is last. -/
def Directive.precedes (a b : Directive) : Bool :=
  match a.target, b.target with
  | none, _ => false
  | some _, none => true
  | some s, some t =>
    t.utf8ByteSize < s.utf8ByteSize || (s.utf8ByteSize = t.utf8ByteSize && t < s)

/-- The directives with one more, which replaces that of the same target. -/
def addDirective (directive : Directive) : List Directive → List Directive
  | [] => [directive]
  | other :: rest =>
    if other.target = directive.target then directive :: rest
    else if directive.precedes other then directive :: other :: rest
    else other :: addDirective directive rest

/-- The directives that a comma-separated list denotes, or nothing if an item is malformed. Empty
items are passed over. -/
def parseDirectives? (text : String) : Option (List Directive) := do
  let items := (Text.parts ',' text).filter fun item => !item.isEmpty
  some ((← items.mapM Directive.parse?).foldl (fun ds d => addDirective d ds) [])

def Directive.text (directive : Directive) : String :=
  match directive.target with
  | some target => target ++ "=" ++ directive.level.name
  | none => directive.level.name

def filterText (directives : List Directive) : String :=
  match directives with
  | [] => Level.error.name
  | directives => String.intercalate "," (directives.map Directive.text)

end BeanMapper.Log
