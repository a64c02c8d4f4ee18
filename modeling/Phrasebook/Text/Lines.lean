/-! The lines of a text. -/

namespace Phrasebook.Text

/-- A line that a newline ends loses one carriage return before it. -/
def dropReturn (line : List Char) : List Char :=
  if line.getLast? = some '\r' then line.dropLast else line

/-- Of the pieces between newlines all but the last are ended by one, and the last is a line only
if it holds something. -/
def closeLines : List (List Char) → List (List Char)
  | [] => []
  | [last] => if last.isEmpty then [] else [last]
  | line :: rest => dropReturn line :: closeLines rest

/-- The lines of a text. A line ends at a newline, with or without a carriage return before it; a
last line without a newline keeps its carriage return. -/
def lines (s : List Char) : List (List Char) :=
  closeLines (s.splitOn '\n')

end Phrasebook.Text
