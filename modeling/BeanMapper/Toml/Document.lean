import BeanMapper.Toml.Reader

/-!
The meaning of a TOML document: its statements are carried out in order on a tree of tables. A table
is defined once, by a header or by dotted keys; a table that only served to reach another may still
be defined by its own header, and then stands where that header stands.
-/

namespace BeanMapper.Toml

/-- Goes down a path, making the tables that are missing, and changes the entries at its end. -/
def descend (change : List (String × Node) → Option (List (String × Node))) :
    List String → List (String × Node) → Option (List (String × Node))
  | [], entries => change entries
  | key :: keys, entries =>
    match entries.lookup key with
    | none => do some (entries ++ [(key, .table .implied (← descend change keys []))])
    | some (.table origin inner) => do
      some (setEntry entries key (.table origin (← descend change keys inner)))
    | some (.tables done last) => do
      some (setEntry entries key (.tables done (← descend change keys last)))
    | some (.value _) => none

def openTable (key : String) (entries : List (String × Node)) : Option (List (String × Node)) :=
  match entries.lookup key with
  | none => some (entries ++ [(key, .table .headed [])])
  | some (.table .implied inner) => some (moveToEnd entries key (.table .headed inner))
  | some _ => none

def openElement (key : String) (entries : List (String × Node)) : Option (List (String × Node)) :=
  match entries.lookup key with
  | none => some (entries ++ [(key, .tables [] [])])
  | some (.tables done last) => some (setEntry entries key (.tables (done ++ [last]) []))
  | some _ => none

/-- The document so far and the path of the table that assignments go to. -/
structure Building where
  root : List (String × Node) := []
  current : List String := []

def Building.run (state : Building) : Statement → Option Building
  | .assign key value => do
    let root ← descend (fun entries => assign entries key value) state.current state.root
    some { state with root }
  | .header key => do
    let last ← key.getLast?
    some ⟨← descend (openTable last) key.dropLast state.root, key⟩
  | .arrayHeader key => do
    let last ← key.getLast?
    some ⟨← descend (openElement last) key.dropLast state.root, key⟩

/-- The text after the byte order mark that it may start with. -/
def skipMark : List Char → List Char
  | '\uFEFF' :: rest => rest
  | text => text

/-- The entries of the root table of a document, or nothing if the text is no TOML. -/
def parse? (text : String) : Option (List (String × Value)) := do
  let chars := skipMark text.toList
  let statements ← readStatements (chars.length + 1) chars
  let final ← statements.foldlM Building.run {}
  some (finishEntries final.root)

end BeanMapper.Toml
