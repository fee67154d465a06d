import InterfaceSync.Text.Split
import InterfaceSync.Text.Width

/-! Tables with rounded corners. Cells are aligned to the left with a blank on either side, a line
parts the heading from the rows, and a cell may have several lines. -/

namespace InterfaceSync.Table

/-- A cell as its lines. -/
abbrev Cell := List (List Char)

def Cell.ofString (text : String) : Cell :=
  splitWhere (· == '\n') text.toList

def Cell.columns (cell : Cell) : Nat :=
  (cell.map columnsOf).foldl max 0

/-- The columns that each cell of a row needs, if the rows above it need the given ones. -/
def widen (columns : List Nat) (row : List Cell) : List Nat :=
  columns.zipWith (fun columns cell => max columns cell.columns) row

def line (start between ending : Char) (parts : List (List Char)) : List Char :=
  start :: [between].intercalate parts ++ [ending]

def border (start between ending : Char) (columns : List Nat) : List Char :=
  line start between ending (columns.map fun columns => List.replicate (columns + 2) '─')

def pad (columns : Nat) (text : List Char) : List Char :=
  ' ' :: text ++ List.replicate (columns - columnsOf text + 1) ' '

/-- The lines of a row: as many as its highest cell has. -/
def rowLines (columns : List Nat) (row : List Cell) : List (List Char) :=
  let height := (row.map List.length).foldl max 1
  (List.range height).map fun index =>
    let texts := row.map fun cell => cell[index]?.getD []
    line '│' '│' '│' (columns.zipWith pad texts)

/-- A table without rows ends below its heading. -/
def lines (heading : List String) (rows : List (List String)) : List (List Char) :=
  let headingCells := heading.map Cell.ofString
  let rowCells := rows.map fun row => row.map Cell.ofString
  let columns := rowCells.foldl widen (headingCells.map Cell.columns)
  let top := border '╭' '┬' '╮' columns :: rowLines columns headingCells ++
    [border '├' '┼' '┤' columns]
  if rows.isEmpty then top
  else top ++ rowCells.flatMap (rowLines columns) ++ [border '╰' '┴' '╯' columns]

def render (heading : List String) (rows : List (List String)) : String :=
  .ofList (['\n'].intercalate (lines heading rows))

end InterfaceSync.Table
