/-! The edit distance of two texts, counted in characters: the least number of insertions, removals
and replacements that turn the one into the other. -/

namespace Phrasebook.Text

/-- The next row of the table of distances. An entry of `above` is the distance of the longer text's
start so far to a start of `target`; `left` is the entry just computed and `diagonal` the one above
it. -/
def nextRow (c : Char) (left diagonal : Nat) : (target : List Char) → (above : List Nat) → List Nat
  | t :: target, up :: above =>
    let entry := min (min (left + 1) (up + 1)) (diagonal + if c = t then 0 else 1)
    entry :: nextRow c entry up target above
  | _, _ => []

/-- The distances of `s` with `done` characters before it to all starts of `target`. -/
def distanceRow (target : List Char) : (s : List Char) → (first : Nat) → (row : List Nat) → Nat
  | [], first, row => row.getLastD first
  | c :: s, first, row =>
    distanceRow target s (first + 1) (nextRow c (first + 1) first target row)

def distance (s target : List Char) : Nat :=
  distanceRow target s 0 (List.range' 1 target.length)

end Phrasebook.Text
