import BeanMapper.Settings.Reading
import BeanMapper.Text.EditDistance

/-!
Warnings about settings that can be read but will hardly do what was meant: keys that nothing knows,
with the known key of the same section that is closest in writing; log directives that no filter
accepts; and an implementation name that is the same for every mapper.
-/

namespace BeanMapper

inductive SettingsWarning where
  | unknownOption (key : String) (suggestion : Option String)
  | invalidLoggingLevel (value directives : String)
  | fixedImplementationName (value : String)
  deriving DecidableEq, Repr

namespace Settings

def rootKeys : List String := ["defaults", "logging", "suppress_generator_timestamp", "verbose"]

/-- The greatest edit distance at which a known key is suggested. -/
def suggestionLimit : Nat := 3

/-- The first of the candidates with the least distance. -/
def nearest : List (Nat × String) → Option (Nat × String)
  | [] => none
  | candidate :: rest =>
    match nearest rest with
    | none => some candidate
    | some best => if best.1 < candidate.1 then some best else some candidate

/-- The section of a dotted key: how its keys are written in full, the name below it, and its known
keys. -/
def sectionOf? (key : String) : Option (String × List Char × List String) :=
  match Text.splitFirst? '.' key.toList with
  | none => some ("", key.toList, rootKeys)
  | some (owner, name) =>
    match String.ofList owner with
    | "defaults" => some ("defaults.", name, OptionLayer.keys)
    | "logging" => some ("logging.", name, loggingKeys)
    | _ => none

/-- The known key that an unknown one was perhaps meant to be. -/
def suggest (key : String) : Option String := do
  let (owner, name, known) ← sectionOf? key
  let candidates := known.map fun k => (Text.editDistance name k.toList, k)
  let (_, best) ← nearest (candidates.filter fun c => c.1 ≤ suggestionLimit)
  some (owner ++ best)

/-- The warnings about settings and the unknown keys found while reading them. -/
def warnings (settings : Settings) (unknown : List String) : List SettingsWarning :=
  let directives := settings.logging.directives
  unknown.map (fun key => .unknownOption key (suggest key)) ++
  (if (Log.parseDirectives? directives).isNone then
    [.invalidLoggingLevel settings.logging.level directives] else []) ++
  match settings.defaults.implementationName with
  | some name =>
    if Text.occursIn Options.classNamePlaceholder.toList name.toList then []
    else [.fixedImplementationName name]
  | none => []

end Settings

end BeanMapper
