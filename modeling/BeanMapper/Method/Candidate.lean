import BeanMapper.Method.Basic
import BeanMapper.Text.Case

/-!
Candidates: methods as the choice of a method sees them. They are the declared methods and the
helpers that every mapper can have, which belong to no class.
-/

namespace BeanMapper

/-- A method that can be chosen for a call. Only a helper has no owner. -/
structure Candidate extends Signature where
  owner : Option Ty := none
  flags : Flags := {}
  timing : Option Timing := none
  helperImports : List Ty := []
  deriving DecidableEq, Repr

namespace Candidate

def isHelper (candidate : Candidate) : Bool := candidate.owner.isNone

def text (candidate : Candidate) : String := candidate.toSignature.text candidate.owner

/-- The fields of a candidate, with all that follows from its signature. -/
def fields (candidate : Candidate) : List (String × Document) :=
  let names (parameters : List Parameter) : Document := .texts (parameters.map Parameter.name)
  let flags := candidate.flags
  [("name", .text candidate.name),
   ("declaring_type", .optional Ty.document candidate.owner),
   ("parameters", .ofList Parameter.document candidate.parameters),
   ("return_type", candidate.returnType.document),
   ("thrown_types", Ty.documents candidate.thrownTypes),
   ("type_parameters", .texts candidate.typeParameters),
   ("qualifiers", .texts candidate.qualifiers),
   ("family", .text flags.family.name),
   ("family_text", .text flags.family.text),
   ("flags", .ofList .bool [flags.isFactory, flags.isCallback, flags.isPresenceCheck]),
   ("built_in", .bool candidate.isHelper),
   ("extra_imports", Ty.documents candidate.helperImports),
   ("sources", names candidate.sources),
   ("contexts", names candidate.contexts),
   ("mapping_target", .optionalText (candidate.mappingTarget?.map Parameter.name)),
   ("target_types", names (candidate.withRole .targetType)),
   ("update", .bool candidate.isUpdate),
   ("result_type", candidate.resultType.document),
   ("signature", .text candidate.text)]

def helper (name : String) (source result : Ty) (imports : List Ty) : Candidate where
  name := name
  parameters := [{ name := Text.decapitalize source.simpleName, ty := source }]
  returnType := result
  helperImports := imports

/-- The helpers that every mapper can have. -/
def helpers : List Candidate :=
  let calendar := Ty.named Platform.calendar
  let date := Ty.named Platform.date
  [helper "calendarToDate" calendar date [calendar, date],
   helper "dateToCalendar" date calendar [date, calendar, Ty.named Platform.gregorianCalendar]]

end Candidate

def Method.candidate (method : Method) : Candidate where
  toSignature := method.toSignature
  owner := some method.owner
  flags := method.family.flags
  timing := method.family.timing?

end BeanMapper
