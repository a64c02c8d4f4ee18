import Phrasebook.Number.Double
import Phrasebook.Text.Blank

/-! Weighted preferences for languages. -/

namespace Phrasebook.Language

/-- A language tag or a pattern of tags. Ranges of lower weight are tried first. -/
structure Range where
  language : String
  weight : Double
  deriving DecidableEq

namespace Range

/-- A range of the usual weight. -/
def ofTag (language : String) : Range :=
  ⟨language, Double.one⟩

/-- Whether the range is a star alone, which stands for no language in particular. -/
def isAny (range : Range) : Bool :=
  Text.trim range.language.toList = ['*']

/-- Whether `a` is tried no later than `b`. -/
def le (a b : Range) : Bool :=
  a.weight.rank ≤ b.weight.rank

/-- Ranges in order of preference: each weighs its place in the list. -/
def ranked (languages : List String) : List Range :=
  languages.mapIdx fun place language => ⟨language, Double.ofInt place⟩

end Range

end Phrasebook.Language
