import HostSetup.Text.Width

/-!
Tables drawn with box characters: rounded corners, one blank on both sides of a cell, and one rule
under the header. A cell of several lines makes its row as high.
-/
namespace HostSetup.Text
namespace Boxed

abbrev Cell := List (List Char)

def Cell.ofString (s : String) : Cell := s.toList.splitOn '\n'

def Cell.width (cell : Cell) : Nat := (cell.map Text.width).foldl max 0

/-- Columns as wide as their widest cell. -/
def columnWidths (rows : List (List Cell)) : List Nat :=
  rows.foldl (fun widths row => List.zipWith max widths (row.map Cell.width))
    ((rows.headD []).map fun _ => 0)

def pad (columns : Nat) (line : List Char) : List Char :=
  ' ' :: line ++ List.replicate (columns - Text.width line + 1) ' '

/-- The `index`-th line of a row; a cell that is lower is blank there. -/
def rowLine (widths : List Nat) (row : List Cell) (index : Nat) : List Char :=
  '│' :: (List.zipWith (fun columns cell => pad columns (cell[index]?.getD []) ++ ['│'])
    widths row).flatten

def rowLines (widths : List Nat) (row : List Cell) : List (List Char) :=
  (List.range ((row.map List.length).foldl max 0)).map (rowLine widths row)

def rule (left middle right : Char) (widths : List Nat) : List Char :=
  left :: [middle].intercalate (widths.map fun columns => List.replicate (columns + 2) '─') ++ [right]

/-- A table without rows ends with the rule under its header. -/
def draw (header : List Cell) (rows : List (List Cell)) : List (List Char) :=
  let widths := columnWidths (header :: rows)
  let top := rule '╭' '┬' '╮' widths :: rowLines widths header ++ [rule '├' '┼' '┤' widths]
  if rows.isEmpty then top
  else top ++ rows.flatMap (rowLines widths) ++ [rule '╰' '┴' '╯' widths]

end Boxed

/-- The lines of the table are joined by line feeds; none ends the last. -/
def boxed (header : List String) (rows : List (List String)) : String :=
  .ofList (['\n'].intercalate
    (Boxed.draw (header.map Boxed.Cell.ofString) (rows.map fun row => row.map Boxed.Cell.ofString)))

end HostSetup.Text
