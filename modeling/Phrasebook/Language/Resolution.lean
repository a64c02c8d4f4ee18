import Phrasebook.Language.Pattern
import Phrasebook.Language.Range
import Phrasebook.Text.Lowercase

/-! The choice of one of several available languages by a list of weighted ranges. -/

namespace Phrasebook.Language

/-- Chooses one of the available tags and gives its place among them. -/
abbrev Resolution := List Range → List String → Option Nat

namespace Resolution

/-- The first of the tags, in lower case, that one of the patterns accepts; all tags are tried with
one pattern before the next. -/
def firstAccepted? (patterns tags : List (List Char)) : Option Nat :=
  patterns.findSome? fun pattern => tags.findIdx? (Pattern.accepts pattern)

/-- The patterns to try for a range: its language in lower case and the truncations of that, or
nothing for a star alone. -/
def patterns (range : Range) : List (List Char) :=
  if range.isAny then [] else Pattern.chain (Text.lower (Text.trim range.language.toList))

/-- Tries the ranges by ascending weight, those of the same weight in their order. -/
def basic : Resolution := fun ranges available =>
  let tags := available.map fun tag => Text.lower tag.toList
  (ranges.mergeSort Range.le).findSome? fun range => firstAccepted? (patterns range) tags

/-- The tag chosen by the wanted ranges, or else by the default ones. A place behind the last tag
chooses none, and the default ranges are then not tried. -/
def choose (resolution : Resolution) (wanted defaults : List Range) (tags : List String) :
    Option String :=
  ((resolution wanted tags).or (resolution defaults tags)).bind fun place => tags[place]?

end Resolution

end Phrasebook.Language
