import BeanMapper.Assignment.Basic
import BeanMapper.Options.Layer
import BeanMapper.Type.Property

/-!
The choice of a wrapper for the assignment of a bean property. A container is merged into the one
that the target holds where the method updates and the property allows it, else it is checked or
set; any other value is set, with a null check where null could do harm or stands for something.
-/

namespace BeanMapper

/-- All that the choice of a wrapper depends on, apart from the assignment itself. -/
structure Wrapping where
  table : ClassTable
  options : Options
  target : Property
  isUpdate : Bool
  thrownTypes : List Ty
  /-- Whether the source may be null. -/
  isNullable : Bool
  /-- Whether the source has a presence check or lies behind other values. -/
  isGuarded : Bool

namespace Wrapping

/-- Whether the container that the target holds is filled again. -/
def merges (wrapping : Wrapping) : Bool :=
  wrapping.isUpdate && wrapping.target.isReadable &&
    !wrapping.table.isImmutable wrapping.target.ty &&
    wrapping.options.collectionMapping != .targetImmutable

def guard (wrapping : Wrapping) : Guard where
  target := wrapping.target.ty
  excluded := wrapping.thrownTypes

/-- A container property. -/
def container (wrapping : Wrapping) (assignment : Assignment) : Assignment :=
  let check := wrapping.options.nullValueCheck
  if wrapping.merges then
    .merge wrapping.guard check wrapping.options.nullValueProperty assignment
  else if assignment.isDirect || check == .always || wrapping.isGuarded ||
      assignment.type.isConverted then
    .nullCheck wrapping.guard assignment
  else .setter { target := wrapping.target.ty, excluded := wrapping.thrownTypes } assignment none

/-- Whether the source of a value is checked for null before it is written. -/
def checksSource (wrapping : Wrapping) (isConverted hasFallback : Bool) : Bool :=
  wrapping.isGuarded ||
    wrapping.isNullable &&
      (wrapping.options.nullValueCheck == .always || isConverted ||
        wrapping.target.ty.isPrimitive || hasFallback ||
        wrapping.isUpdate && wrapping.options.nullValueProperty != .setToNull)

/-- A property that is no container. -/
def plain (wrapping : Wrapping) (assignment : Assignment) (fallback : Option Assignment) :
    Assignment :=
  let checks := wrapping.checksSource assignment.type.isConverted fallback.isSome
  -- only an update has something to reset
  let resets := checks && wrapping.isUpdate && fallback.isNone
  let setting : Setting := {
    target := wrapping.target.ty
    excluded := wrapping.thrownTypes
    checksSource := checks
    resetsToNull := resets && wrapping.options.nullValueProperty == .setToNull &&
      !wrapping.target.ty.isPrimitive
    resetsToDefault := resets && wrapping.options.nullValueProperty == .setToDefault }
  .setter setting assignment fallback

/-- The assignment in its wrapper. A container takes no fallback. -/
def wrap (wrapping : Wrapping) (assignment : Assignment) (fallback : Option Assignment) :
    Assignment :=
  if wrapping.table.isContainer wrapping.target.ty then wrapping.container assignment
  else wrapping.plain assignment fallback

end Wrapping

end BeanMapper
