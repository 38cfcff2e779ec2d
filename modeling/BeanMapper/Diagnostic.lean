import BeanMapper.Document

/-!
Diagnostics: what is told to the user, how serious it is, and which declaration it belongs to.
-/

namespace BeanMapper

/-- A range of bytes in a text. -/
structure Span where
  first : Nat
  last : Nat
  deriving DecidableEq, Repr

namespace Span

/-- The number of bytes; a range that ends before it starts has none. -/
def length (span : Span) : Nat := span.last - span.first

def isEmpty (span : Span) : Bool := span.last ≤ span.first

def text (span : Span) : String := s!"Span({span.first}..{span.last})"

theorem isEmpty_iff_length {span : Span} : span.isEmpty = true ↔ span.length = 0 := by
  simp [isEmpty, length]
  omega

end Span

/-- How serious a diagnostic is. -/
inductive Severity where
  | error
  | warning
  | info
  deriving DecidableEq, Repr

def Severity.name : Severity → String
  | .error => "error"
  | .warning => "warning"
  | .info => "info"

/-- A message to the user, with a code that stays the same when the wording changes. -/
structure Diagnostic where
  severity : Severity
  code : String
  message : String
  element : Option String := none
  span : Option Span := none
  deriving DecidableEq, Repr

namespace Diagnostic

def isError (diagnostic : Diagnostic) : Bool := diagnostic.severity = .error

def document (diagnostic : Diagnostic) : Document := .object [
  ("severity", .text diagnostic.severity.name),
  ("code", .text diagnostic.code),
  ("message", .text diagnostic.message),
  ("element", .optionalText diagnostic.element),
  ("span", .optional (fun span => .object [
    ("start", .number span.first), ("end", .number span.last)]) diagnostic.span)]

end Diagnostic

end BeanMapper
