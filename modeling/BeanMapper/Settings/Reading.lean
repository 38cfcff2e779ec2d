import BeanMapper.Settings.Basic
import BeanMapper.Text.Shown
import BeanMapper.Toml.Document

/-!
Settings read from a TOML document. A value that does not fit its key is an error; a key that
nothing knows is noted and passed over, whatever its value. Choices and sections have a second form
each: a choice may stand as the only key of a table, with nothing in it, and a section as an array
of its values in the order of its keys.
-/

namespace BeanMapper

/-- Why a document gives no settings. -/
inductive SettingsError where
  | syntaxError
  | unknownChoice (given : String) (known : List String)
  | wrongType (given : Toml.Value) (expected : String)
  | noChoice
  | emptyChoice
  | severalChoices
  | choiceWithContent (content : Toml.Value)
  deriving Inhabited

namespace SettingsError

/-- A value as an error shows it. -/
def describe : Toml.Value → String
  | .string text => "string " ++ Text.shown text
  | .integer number => "integer `" ++ toString number ++ "`"
  | .boolean value => "boolean `" ++ (if value then "true" else "false") ++ "`"
  | .array _ => "sequence"
  | .table _ => "map"

/-- The choices that were expected: two of them, or a list. -/
def expectation : List String → String
  | [a, b] => s!"expected `{a}` or `{b}`"
  | known => "expected one of " ++ String.intercalate ", " (known.map fun k => "`" ++ k ++ "`")

/-- What was found inside a choice, where only an empty table can stand. -/
def describeContent : Toml.Value → String
  | .string _ => "expected table, found string"
  | .integer _ => "expected table, found integer"
  | .boolean _ => "expected table, found boolean"
  | .array _ => "expected empty table"
  | .table _ => "expected empty table"

/-- What is wrong with the document, if it can be read at all. -/
def cause? : SettingsError → Option String
  | syntaxError => none
  | unknownChoice given known => some ("unknown variant `" ++ given ++ "`, " ++ expectation known)
  | wrongType given expected =>
    some ("invalid type: " ++ describe given ++ ", expected " ++ expected)
  | noChoice => some "wanted string or table"
  | emptyChoice => some "wanted exactly 1 element, found 0 elements"
  | severalChoices => some "wanted exactly 1 element, more than 1 element"
  | choiceWithContent content => some (describeContent content)

def message (error : SettingsError) : String :=
  match error.cause? with
  | some cause => "failed to parse toml config: " ++ cause
  | none => "failed to parse toml config"

end SettingsError

namespace Settings

/-! ## Values -/

def readText : Toml.Value → Except SettingsError String
  | .string text => .ok text
  | value => .error (.wrongType value "a string")

def readFlag : Toml.Value → Except SettingsError Bool
  | .boolean value => .ok value
  | value => .error (.wrongType value "a boolean")

def chooseByName (α : Type) [Keyworded α] (name : String) : Except SettingsError α :=
  match ofKeyword? (α := α) name with
  | some choice => .ok choice
  | none => .error (.unknownChoice name (keywords α))

/-- A choice by its keyword, given alone or as the key of an empty table. -/
def readChoice (α : Type) [Keyworded α] : Toml.Value → Except SettingsError α
  | .string text => chooseByName α text
  | .table [] => .error .emptyChoice
  | .table [(name, content)] => do
    let choice ← chooseByName α name
    match content with
    | .table [] => return choice
    | .array [] => return choice
    | content => throw (.choiceWithContent content)
  | .table _ => .error .severalChoices
  | _ => .error .noChoice

/-! ## Sections -/

/-- Sets one option of a layer; nothing if there is no option of that name. -/
def setOption (layer : OptionLayer) (key : String) (value : Toml.Value) :
    Except SettingsError (Option OptionLayer) := do
  match key with
  | "null_value_check_strategy" =>
    return some { layer with nullValueCheck := some (← readChoice _ value) }
  | "null_value_property_mapping_strategy" =>
    return some { layer with nullValueProperty := some (← readChoice _ value) }
  | "null_value_mapping_strategy" =>
    return some { layer with nullValueMapping := some (← readChoice _ value) }
  | "null_value_iterable_mapping_strategy" =>
    return some { layer with nullValueIterable := some (← readChoice _ value) }
  | "null_value_map_mapping_strategy" =>
    return some { layer with nullValueMap := some (← readChoice _ value) }
  | "collection_mapping_strategy" =>
    return some { layer with collectionMapping := some (← readChoice _ value) }
  | "unmapped_target_policy" =>
    return some { layer with unmappedTarget := some (← readChoice _ value) }
  | "unmapped_source_policy" =>
    return some { layer with unmappedSource := some (← readChoice _ value) }
  | "component_model" =>
    return some { layer with componentModel := some (← readChoice _ value) }
  | "injection_strategy" =>
    return some { layer with injectionStrategy := some (← readChoice _ value) }
  | "implementation_name" =>
    return some { layer with implementationName := some (← readText value) }
  | "implementation_package" =>
    return some { layer with implementationPackage := some (← readText value) }
  | _ => return none

/-- Sets one key of logging; nothing if there is no key of that name. -/
def setLogging (logging : Logging) (key : String) (value : Toml.Value) :
    Except SettingsError (Option Logging) := do
  match key with
  | "level" => return some { logging with level := ← readText value }
  | "json" => return some { logging with json := ← readFlag value }
  | _ => return none

/-- Sets the entries of a section in order and notes the keys that are unknown, each after the
section's name. -/
def readSection (name : String) (set : α → String → Toml.Value → Except SettingsError (Option α)) :
    α → List (String × Toml.Value) → Except SettingsError (α × List String)
  | start, [] => .ok (start, [])
  | start, (key, value) :: rest => do
    match ← set start key value with
    | some next => readSection name set next rest
    | none =>
      let (final, unknown) ← readSection name set start rest
      .ok (final, (name ++ "." ++ key) :: unknown)

/-- The entries that a section is read from. The items of an array belong to the keys of the section
in order; what is left of the longer of the two is passed over. -/
def entriesOf (expected : String) (keys : List String) :
    Toml.Value → Except SettingsError (List (String × Toml.Value))
  | .table entries => .ok entries
  | .array items => .ok (keys.zip items)
  | value => .error (.wrongType value expected)

def loggingKeys : List String := ["level", "json"]

/-- Sets the entries of the root table in order and notes the paths of the keys that are unknown.
Dots at the start of a key at the root are not shown. -/
def readRoot : Settings → List (String × Toml.Value) → Except SettingsError (Settings × List String)
  | settings, [] => .ok (settings, [])
  | settings, (key, value) :: rest => do
    let (settings, unknown) ← match key with
      | "defaults" => do
        let entries ← entriesOf "struct OptionsScope" OptionLayer.keys value
        let (defaults, unknown) ← readSection key setOption settings.defaults entries
        pure ({ settings with defaults }, unknown)
      | "logging" => do
        let entries ← entriesOf "struct LoggingConfig" loggingKeys value
        let (logging, unknown) ← readSection key setLogging settings.logging entries
        pure ({ settings with logging }, unknown)
      | "suppress_generator_timestamp" => do
        pure ({ settings with suppressTimestamp := ← readFlag value }, [])
      | "verbose" => do pure ({ settings with verbose := ← readFlag value }, [])
      | _ => pure (settings, [String.ofList (key.toList.dropWhile (· == '.'))])
    let (final, more) ← readRoot settings rest
    .ok (final, unknown ++ more)

/-! ## Documents -/

/-- Inserts a text into a sorted list, unless it is there. -/
def insertSorted (text : String) : List String → List String
  | [] => [text]
  | other :: rest =>
    if text < other then text :: other :: rest
    else if text = other then other :: rest
    else other :: insertSorted text rest

/-- The members of a list in order of their characters, each once. -/
def sortedDistinct (texts : List String) : List String := texts.foldr insertSorted []

/-- The settings of a document, with the paths of the keys that are unknown. -/
def read (text : String) : Except SettingsError (Settings × List String) :=
  match Toml.parse? text with
  | none => .error .syntaxError
  | some entries => do
    let (settings, unknown) ← readRoot {} entries
    .ok (settings, sortedDistinct unknown)

end Settings

end BeanMapper
