/-! Sets of characters, given as ranges of code points. -/

namespace Phrasebook.Text

/-- Whether a code point lies in one of the ranges, their ends included. -/
def inRanges (ranges : List (Nat × Nat)) (n : Nat) : Bool :=
  ranges.any fun (first, last) => first ≤ n && n ≤ last

end Phrasebook.Text
