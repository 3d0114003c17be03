import ImagePreload.Text.Search
import ImagePreload.Text.Width

/-!
# Tables

A table has a headline and rows between rules. Every column is as wide as its widest cell; a cell
whose text has several lines takes as many. A line whose width cannot be counted is taken to lack
one column.
-/

namespace ImagePreload.Text

/-- Where the text of a cell stands. -/
inductive Alignment where
  | left
  | center
  deriving DecidableEq, Repr

structure Column where
  title : String
  alignment : Alignment

/-- The columns that a line takes. -/
def lineWidth (line : String) : Int :=
  match width? line with
  | some n => n
  | none => -1

/-- The lines of a cell. -/
def cellLines (cell : String) : List String :=
  (splitOn ['\n'] none cell.toList).map String.ofList

/-- The columns that a cell takes. -/
def cellWidth (cell : String) : Int :=
  match (cellLines cell).map lineWidth with
  | [] => 0
  | w :: ws => ws.foldl max w

def blanks (n : Int) : String := .ofList (List.replicate n.toNat ' ')

/-- A line filled up to the width of its column. In the center, what cannot be halved goes behind a
line of odd width and in front of any other. -/
def aligned (alignment : Alignment) (width : Int) (line : String) : String :=
  let own := lineWidth line
  let missing := width - own
  match alignment with
  | .left => line ++ blanks missing
  | .center =>
    let half := Int.fdiv missing 2
    if Int.fmod missing 2 == 0 then blanks half ++ line ++ blanks half
    else if Int.fmod own 2 == 0 then blanks (half + 1) ++ line ++ blanks half
    else blanks half ++ line ++ blanks (half + 1)

/-- The lines of a row, given the widths of the columns. -/
def rowLines (columns : List (Column × Int)) (cells : List String) : List String :=
  let parts := (columns.zip cells).map fun (column, cell) => (column, cellLines cell)
  let height := (parts.map fun (_, lines) => lines.length).foldl max 0
  (List.range height).map fun i =>
    "|" ++ String.join (parts.map fun ((column, width), lines) =>
      " " ++ aligned column.alignment width (lines.getD i "") ++ " |")

/-- The rule between the headline and the rows. -/
def ruleLine (columns : List (Column × Int)) : String :=
  "+" ++ String.join (columns.map fun (_, width) =>
    String.ofList (List.replicate (width + 2).toNat '-') ++ "+")

/-- A table in full. -/
def table (columns : List Column) (rows : List (List String)) : String :=
  let widths := columns.zipIdx.map fun (column, i) =>
    (rows.map fun row => cellWidth (row.getD i "")).foldl max (cellWidth column.title)
  let columns := columns.zip widths
  let rule := ruleLine columns
  "\n".intercalate
    ([rule] ++ rowLines columns (columns.map fun (column, _) => column.title) ++ [rule]
      ++ rows.flatMap (rowLines columns) ++ [rule])

end ImagePreload.Text
