/-!
The serialized form of models: nested data without a layout of its own.
-/

namespace BeanMapper

/-- Serialized data. The fields of an object are a set, the items of a list have an order. -/
inductive Document where
  | null
  | bool (value : Bool)
  | number (value : Int)
  | text (value : String)
  | list (items : List Document)
  | object (fields : List (String × Document))
  deriving Inhabited

namespace Document

def texts (values : List String) : Document := list (values.map text)

/-- A value that may be missing. -/
def optional (f : α → Document) : Option α → Document
  | some value => f value
  | none => null

def optionalText : Option String → Document := optional text

def ofList (f : α → Document) (values : List α) : Document := list (values.map f)

end Document

end BeanMapper
