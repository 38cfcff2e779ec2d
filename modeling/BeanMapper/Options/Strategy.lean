/-!
The choices that a mapping can be configured with. Each choice has a keyword, and `ofKeyword?` reads
the keywords back (`ofKeyword?_keyword`).
-/

namespace BeanMapper

/-- A finite list of choices, each denoted by a keyword. -/
class Keyworded (α : Type) where
  all : List α
  keyword : α → String

def ofKeyword? [Keyworded α] (text : String) : Option α :=
  Keyworded.all.find? fun choice => Keyworded.keyword choice == text

/-- The keywords of all choices, in the order in which they are listed. -/
def keywords (α : Type) [Keyworded α] : List String :=
  (Keyworded.all (α := α)).map Keyworded.keyword

/-- When a source value is checked for null before it is used. -/
inductive NullValueCheck where
  | onImplicitConversion
  | always
  deriving DecidableEq, Repr, Inhabited

instance : Keyworded NullValueCheck where
  all := [.onImplicitConversion, .always]
  keyword
    | .onImplicitConversion => "ON_IMPLICIT_CONVERSION"
    | .always => "ALWAYS"

/-- What an update writes to a property whose source is null. -/
inductive NullValueProperty where
  | setToNull
  | setToDefault
  | ignore
  deriving DecidableEq, Repr, Inhabited

instance : Keyworded NullValueProperty where
  all := [.setToNull, .setToDefault, .ignore]
  keyword
    | .setToNull => "SET_TO_NULL"
    | .setToDefault => "SET_TO_DEFAULT"
    | .ignore => "IGNORE"

/-- What a mapping returns for a null source. -/
inductive NullValueMapping where
  | returnNull
  | returnDefault
  deriving DecidableEq, Repr, Inhabited

instance : Keyworded NullValueMapping where
  all := [.returnNull, .returnDefault]
  keyword
    | .returnNull => "RETURN_NULL"
    | .returnDefault => "RETURN_DEFAULT"

/-- How a collection property of the target is filled. -/
inductive CollectionMapping where
  | accessorOnly
  | setterPreferred
  | targetImmutable
  deriving DecidableEq, Repr, Inhabited

instance : Keyworded CollectionMapping where
  all := [.accessorOnly, .setterPreferred, .targetImmutable]
  keyword
    | .accessorOnly => "ACCESSOR_ONLY"
    | .setterPreferred => "SETTER_PREFERRED"
    | .targetImmutable => "TARGET_IMMUTABLE"

/-- How a property that no mapping covers is reported. -/
inductive ReportingPolicy where
  | ignore
  | warn
  | error
  deriving DecidableEq, Repr, Inhabited

instance : Keyworded ReportingPolicy where
  all := [.ignore, .warn, .error]
  keyword
    | .ignore => "IGNORE"
    | .warn => "WARN"
    | .error => "ERROR"

/-- The framework that generated mappers are components of. -/
inductive ComponentModel where
  | default
  | spring
  | cdi
  | jsr330
  | jakarta
  deriving DecidableEq, Repr, Inhabited

instance : Keyworded ComponentModel where
  all := [.default, .spring, .cdi, .jsr330, .jakarta]
  keyword
    | .default => "default"
    | .spring => "spring"
    | .cdi => "cdi"
    | .jsr330 => "jsr330"
    | .jakarta => "jakarta"

/-- How a generated mapper receives the mappers it uses. -/
inductive InjectionStrategy where
  | field
  | constructor
  | setter
  deriving DecidableEq, Repr, Inhabited

instance : Keyworded InjectionStrategy where
  all := [.field, .constructor, .setter]
  keyword
    | .field => "FIELD"
    | .constructor => "CONSTRUCTOR"
    | .setter => "SETTER"

/-- A finite list of choices whose keywords all differ and which leaves no choice out. -/
class LawfulKeyworded (α : Type) [Keyworded α] : Prop where
  ofKeyword?_keyword : ∀ choice : α, ofKeyword? (Keyworded.keyword choice) = some choice

instance : LawfulKeyworded NullValueCheck := ⟨fun c => by cases c <;> rfl⟩

instance : LawfulKeyworded NullValueProperty := ⟨fun c => by cases c <;> rfl⟩

instance : LawfulKeyworded NullValueMapping := ⟨fun c => by cases c <;> rfl⟩

instance : LawfulKeyworded CollectionMapping := ⟨fun c => by cases c <;> rfl⟩

instance : LawfulKeyworded ReportingPolicy := ⟨fun c => by cases c <;> rfl⟩

instance : LawfulKeyworded ComponentModel := ⟨fun c => by cases c <;> rfl⟩

instance : LawfulKeyworded InjectionStrategy := ⟨fun c => by cases c <;> rfl⟩

end BeanMapper
