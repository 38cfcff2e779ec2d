import BeanMapper.Generation.Method
import BeanMapper.Message
import BeanMapper.Resolution.Resolver

/-!
What the methods of one mapper are generated from, and what becomes of each: a generated method, or
reports of what is wrong with it. Warnings may come with a method; errors take its place.
-/

namespace BeanMapper

/-- A resolver for the methods of a mapper, with the layers of options that hold for all of them,
the highest first. -/
structure Generator extends Resolver where
  layers : List OptionLayer := []

/-- What becomes of a declared method. -/
structure Draft where
  method : Option GeneratedMethod
  reports : List Report

namespace Draft

def failed (element : String) (messages : List Message) : Draft where
  method := none
  reports := messages.map fun message => ⟨.error, element, message⟩

@[simp]
theorem any_isError_failed (element : String) (messages : List Message) :
    (failed element messages).reports.any Report.isError = !messages.isEmpty := by
  cases messages <;> rfl

end Draft

namespace Generator

/-- The options in force below some layers of their own. -/
def options (generator : Generator) (own : List OptionLayer) : Options :=
  Options.resolve (own ++ generator.layers)

def elementName (generator : Generator) (method : Method) : String :=
  generator.mapper.simpleName ++ "#" ++ method.name

/-- The type to construct where a result is asked for. -/
def constructible (generator : Generator) (result : Ty) : Except Message Ty :=
  let ty := result.instantiated
  if generator.table.isAbstract ty || generator.table.isInterface ty then
    .error (.abstractResultType result.text)
  else if !generator.table.isInstantiable ty then .error (.noDefaultConstructor ty.text)
  else .ok ty

/-- Where a new instance of a result comes from: a factory if there is one, else a constructor. -/
def creation (generator : Generator) (result : Ty) (source : Option Ty)
    (context : List Parameter) : Except Message Creation :=
  match generator.factory result source context with
  | .error error => .error (.ambiguousFactoryMethods result.text error.candidates)
  | .ok (some reference) => .ok (.factory reference)
  | .ok none => (generator.constructible result).map .construct

def complete (generator : Generator) (method : Method) (source : Option Ty) (creation : Creation)
    (nullValueMapping : NullValueMapping) (body : MethodBody) : GeneratedMethod :=
  let callbacks (timing : Timing) :=
    generator.callbacks timing source method.resultType method.contexts
  { toSignature := method.toSignature
    creation
    before := callbacks .beforeMapping
    after := callbacks .afterMapping
    nullValueMapping
    body }

end Generator

end BeanMapper
