/-!
TOML data: values, and the statements that a document is written as. What a sequence of statements
means is decided in `Toml.Document`.
-/

namespace BeanMapper.Toml

/-- A value. The entries of a table are in the order of their keys' first appearance. -/
inductive Value where
  | string (text : String)
  | integer (number : Int)
  | boolean (value : Bool)
  | array (items : List Value)
  | table (entries : List (String × Value))
  deriving Inhabited

/-- One statement of a document: an assignment to a dotted key, or a header that says which table
the assignments after it belong to. -/
inductive Statement where
  | assign (key : List String) (value : Value)
  | header (key : List String)
  | arrayHeader (key : List String)

end BeanMapper.Toml
