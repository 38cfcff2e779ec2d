import BeanMapper.Log.Filter
import BeanMapper.Options.Layer

/-!
The generator's settings: the lowest layer of options, logging, and two switches. The generator logs
under a target of its own; a level without a target is meant for it, and everything else is logged
from warnings on.
-/

namespace BeanMapper

/-- Settings of logging. The level is a bare level or a list of directives. -/
structure Logging where
  level : String := "info"
  json : Bool := false
  deriving DecidableEq, Repr, Inhabited

structure Settings where
  defaults : OptionLayer := {}
  logging : Logging := {}
  suppressTimestamp : Bool := false
  verbose : Bool := false
  deriving DecidableEq, Repr, Inhabited

namespace Logging

/-- The target that the generator logs under. -/
def target : String := "nova.mapgen"

/-- The level that the text denotes alone, if it is no list of directives. -/
def bareLevel? (logging : Logging) : Option Log.Level :=
  match Log.asciiLower (Text.trim logging.level) with
  | "" => some .info
  | "info" => some .info
  | "warn" => some .warn
  | "warning" => some .warn
  | "trace" => some .trace
  | "debug" => some .debug
  | "error" => some .error
  | "off" => some .off
  | _ => none

/-- Directives that give the generator a level and let warnings of all else through. -/
def directivesAt (level : Log.Level) : String :=
  Log.Level.warn.name ++ "," ++ target ++ "=" ++ level.name

/-- The directives that the level stands for. -/
def directives (logging : Logging) : String :=
  match logging.bareLevel? with
  | some level => directivesAt level
  | none => Text.trim logging.level

end Logging

namespace Settings

/-- The directives in force: verbose settings log the generator at debug level at least. -/
def logDirectives (settings : Settings) : String :=
  match settings.verbose, settings.logging.bareLevel? with
  | true, some .trace => settings.logging.directives
  | true, some _ => Logging.directivesAt .debug
  | true, none =>
    settings.logging.directives ++ "," ++ Logging.target ++ "=" ++ Log.Level.debug.name
  | false, _ => settings.logging.directives

/-- The filter in force, given the directives of the environment. Malformed ones are left out: first
the environment's, then the settings'. -/
def logFilter (settings : Settings) (environment : Option String) : List Log.Directive :=
  let configured := settings.logDirectives
  let combined := match environment.map Text.trim with
    | some env => if env.isEmpty then configured else configured ++ "," ++ env
    | none => configured
  match Log.parseDirectives? combined with
  | some directives => directives
  | none =>
    match Log.parseDirectives? configured with
    | some directives => directives
    | none => (Log.parseDirectives? (Logging.directives {})).getD []

def document (settings : Settings) : Document := .object [
  ("defaults", settings.defaults.document),
  ("logging", .object [
    ("level", .text settings.logging.level), ("json", .bool settings.logging.json)]),
  ("suppress_generator_timestamp", .bool settings.suppressTimestamp),
  ("verbose", .bool settings.verbose)]

end Settings

end BeanMapper
