import Phrasebook.Number.Power
import Phrasebook.Text.Width

/-! Tables with a border, for terminals. Each column is as wide as its widest line, with a blank on
both sides, and one more blank stands between columns. -/

namespace Phrasebook.CommandLine

/-- Each row has as many cells as the header. -/
structure Table where
  header : List String
  rows : List (List String)
  deriving DecidableEq

namespace Table

def cellLines (cell : String) : List String :=
  (cell.toList.splitOn '\n').map String.ofList

def cellWidth (cell : String) : Nat :=
  ((cellLines cell).map Text.width).foldl max 0

/-- The widths of the columns that a row asks for, or more where there is more already. -/
def widen (widths : List Nat) (row : List String) : List Nat :=
  List.zipWith max widths (row.map cellWidth)

def widths (table : Table) : List Nat :=
  table.rows.foldl widen (table.header.map cellWidth)

def spaces (n : Nat) : String :=
  String.ofList (List.replicate n ' ')

/-- A line of a cell, filled up to the width of its column. -/
def pad (width : Nat) (line : String) : String :=
  " " ++ line ++ spaces (width - Text.width line) ++ " "

/-- One of the lines that a row takes. -/
def rowLine (widths : List Nat) (row : List (List String)) (place : Nat) : String :=
  let cells := List.zipWith (fun width cell => pad width (cell.getD place "")) widths row
  "│" ++ " ".intercalate cells ++ "│"

/-- A row takes as many lines as its highest cell. -/
def rowLines (widths : List Nat) (row : List String) : List String :=
  let cells := row.map cellLines
  let height := (cells.map List.length).foldl max 0
  (List.range height).map (rowLine widths cells)

/-- A line between two corners. -/
def rule (widths : List Nat) (left line right : Char) : String :=
  let inner := (widths.map (· + 3)).sum - 1
  String.ofList (left :: List.replicate inner line ++ [right])

def lines (table : Table) : List String :=
  let widths := table.widths
  [rule widths '┌' '─' '┐'] ++ rowLines widths table.header ++ [rule widths '╞' '═' '╡'] ++
    table.rows.flatMap (rowLines widths) ++ [rule widths '└' '─' '┘']

/-- The text of a table, with an end after each line. -/
def text (table : Table) : String :=
  String.join (table.lines.map (· ++ "\n"))

end Table

end Phrasebook.CommandLine
