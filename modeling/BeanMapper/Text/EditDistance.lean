/-!
Edit distance: the least number of insertions, deletions and substitutions of single characters that
turn one text into another. The table of distances between the beginnings of both texts is computed
row by row; the row of a beginning of the first text holds its distance to every beginning of the
second.
-/

namespace BeanMapper.Text

/-- The cells of a row after its first, from the cell to the left and the row above. -/
def rowCells (c : Char) : Nat → List Char → List Nat → List Nat
  | left, d :: text, diagonal :: above :: rest =>
    let cell := min (min (diagonal + if c = d then 0 else 1) (above + 1)) (left + 1)
    cell :: rowCells c cell text (above :: rest)
  | _, _, _ => []

/-- The row that follows another when the first text grows by one character. -/
def nextRow (text : List Char) (row : List Nat) (c : Char) : List Nat :=
  let first := row.headD 0 + 1
  first :: rowCells c first text row

/-- The row of the empty text: the distance is the length. -/
def firstRow (text : List Char) : List Nat := List.range (text.length + 1)

def editDistance (a b : List Char) : Nat := (a.foldl (nextRow b) (firstRow b)).getLastD 0

end BeanMapper.Text
