import BeanMapper.Toml.Basic

/-!
Trees of tables under construction. A table that dotted keys made can be extended by more of them,
and one that only served to reach another can still be defined; every other table is closed.
-/

namespace BeanMapper.Toml

/-- How a table came to be. -/
inductive Origin where
  | implied
  | headed
  | dotted
  deriving DecidableEq

/-- A tree of tables under construction. A value is closed, also if it is a table. -/
inductive Node where
  | value (value : Value)
  | table (origin : Origin) (entries : List (String × Node))
  | tables (done : List (List (String × Node))) (last : List (String × Node))

/-! ## Entries -/

/-- Entries with one of them set; a new key goes to the end. -/
def setEntry (entries : List (String × α)) (key : String) (value : α) : List (String × α) :=
  if (entries.lookup key).isSome then
    entries.map fun entry => if entry.1 = key then (key, value) else entry
  else entries ++ [(key, value)]

/-- Entries with one of them at the end, wherever it was before. -/
def moveToEnd (entries : List (String × α)) (key : String) (value : α) : List (String × α) :=
  entries.filter (fun entry => entry.1 ≠ key) ++ [(key, value)]

/-- Carries out an assignment below the entries of one table. Dotted keys go through tables that
dotted keys made, through tables that are not yet defined if more than one part is left, and through
the last element of an array of tables on the same condition. -/
def assign (entries : List (String × Node)) :
    List String → Value → Option (List (String × Node))
  | [], _ => none
  | [key], value =>
    if (entries.lookup key).isSome then none else some (entries ++ [(key, .value value)])
  | key :: next :: keys, value =>
    match entries.lookup key with
    | none => do
      some (entries ++ [(key, .table .dotted (← assign [] (next :: keys) value))])
    | some (.table origin inner) => do
      if origin = .headed ∨ (origin = .implied ∧ keys.isEmpty) then none
      some (setEntry entries key (.table origin (← assign inner (next :: keys) value)))
    | some (.tables done last) => do
      if keys.isEmpty then none
      some (setEntry entries key (.tables done (← assign last (next :: keys) value)))
    | some (.value _) => none

/-! ## Finished values -/

mutual

def Node.finish : Node → Value
  | .value value => value
  | .table _ entries => .table (finishEntries entries)
  | .tables done last => .array (finishTables done ++ [.table (finishEntries last)])

def finishEntries : List (String × Node) → List (String × Value)
  | [] => []
  | (key, node) :: rest => (key, node.finish) :: finishEntries rest

def finishTables : List (List (String × Node)) → List Value
  | [] => []
  | entries :: rest => .table (finishEntries entries) :: finishTables rest

end

/-- The table that assignments make when nothing but them defines it. -/
def tableOf? (assignments : List (List String × Value)) : Option Value := do
  let entries ← assignments.foldlM (fun entries (key, value) => assign entries key value) []
  some (.table (finishEntries entries))

end BeanMapper.Toml
