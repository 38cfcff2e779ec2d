import BeanMapper.Method.Basic
import BeanMapper.Text.Case
import BeanMapper.Type.Hierarchy

/-!
Conversions between types that need no method: boxing, widening, and texts of numbers, enumeration
constants and dates. A conversion is an expression with a placeholder for the converted value.
-/

namespace BeanMapper

inductive ConversionKind where
  | boxing
  | unboxing
  | widening
  | toString
  | fromString
  | enumToString
  | stringToEnum
  | dateToString
  | stringToDate
  deriving DecidableEq, Repr

def ConversionKind.name : ConversionKind → String
  | .boxing => "boxing"
  | .unboxing => "unboxing"
  | .widening => "widening"
  | .toString => "to_string"
  | .fromString => "from_string"
  | .enumToString => "enum_to_string"
  | .stringToEnum => "string_to_enum"
  | .dateToString => "date_to_string"
  | .stringToDate => "string_to_date"

/-- A way to turn a value of one type into one of another. -/
structure Conversion where
  source : Ty
  target : Ty
  expression : String
  imports : List Ty := []
  thrownTypes : List Ty := []
  deriving DecidableEq, Repr

structure KnownConversion extends Conversion where
  kind : ConversionKind
  deriving DecidableEq, Repr

namespace Conversion

/-- Stands for the converted value in an expression. -/
def placeholder : String := "<SOURCE>"

def call (function : String) : String := function ++ "( " ++ placeholder ++ " )"

/-- The primitive type behind a primitive type or a box. -/
def primitiveOf? (ty : Ty) : Option Primitive := ty.primitive?.or ty.unboxed?

/-- The simple name of a primitive type's box. -/
def boxName (p : Primitive) : String := (Ty.boxed p).simpleName

/-- The expression that turns a value of one primitive type or box into another by widening. -/
def wideningExpression (source target : Ty) (t : Primitive) : String :=
  if !source.isPrimitive then placeholder ++ "." ++ t.name ++ "Value()"
  else if target.isPrimitive then placeholder
  else call (boxName t ++ ".valueOf")

/-- The expression that reads a text as a value of a primitive type or its box. -/
def parseExpression (p : Primitive) (isPrimitive : Bool) : String :=
  if p = .char then placeholder ++ ".charAt( 0 )"
  else if isPrimitive then call (boxName p ++ ".parse" ++ Text.capitalize p.name)
  else call (boxName p ++ ".valueOf")

/-- The conversion between two types that both are primitive or boxes. -/
def ofPrimitives? (source target : Ty) (s t : Primitive) : Option KnownConversion :=
  if s = t then
    let kind := if source.isPrimitive then .boxing else .unboxing
    some { kind, source, target, expression := placeholder }
  else if s.widensTo t then
    some { kind := .widening, source, target, expression := wideningExpression source target t }
  else none

def toString? (table : ClassTable) (source target : Ty) : Option KnownConversion :=
  if (primitiveOf? source).isSome then
    some { kind := .toString, source, target, expression := call "String.valueOf" }
  else if table.isEnum source then
    some { kind := .enumToString, source, target, expression := placeholder ++ ".name()" }
  else if source.qualifiedName = Platform.date then
    some {
      kind := .dateToString, source, target
      expression := call "new SimpleDateFormat().format"
      imports := [.named Platform.simpleDateFormat] }
  else none

def fromString? (table : ClassTable) (source target : Ty) : Option KnownConversion :=
  match primitiveOf? target with
  | some p =>
    some {
      kind := .fromString, source, target, expression := parseExpression p target.isPrimitive }
  | none =>
    if table.isEnum target then
      some {
        kind := .stringToEnum, source, target
        expression := "Enum.valueOf( " ++ target.simpleName ++ ".class, " ++ placeholder ++ " )"
        imports := target.imports }
    else if target.qualifiedName = Platform.date then
      some {
        kind := .stringToDate, source, target
        expression := call "new SimpleDateFormat().parse"
        imports := [.named Platform.simpleDateFormat]
        thrownTypes := [.named Platform.parseException] }
    else none

def find? (table : ClassTable) (source target : Ty) : Option KnownConversion :=
  if source = target then none
  else match primitiveOf? source, primitiveOf? target with
    | some s, some t => ofPrimitives? source target s t
    | _, _ =>
      match if target.isString then toString? table source target else none with
      | some conversion => some conversion
      | none => if source.isString then fromString? table source target else none

end Conversion

def KnownConversion.document (conversion : KnownConversion) : Document := .object [
  ("kind", .text conversion.kind.name),
  ("source_type", conversion.source.document),
  ("target_type", conversion.target.document),
  ("expression", .text conversion.expression),
  ("import_types", Ty.documents conversion.imports),
  ("thrown_types", Ty.documents conversion.thrownTypes)]

end BeanMapper
