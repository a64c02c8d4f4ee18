import Phrasebook.Text.Blank

/-! The writing direction of languages. -/

namespace Phrasebook.Language

inductive Direction where
  | leftToRight
  | rightToLeft
  deriving DecidableEq

/-- The primary subtags of the languages written from right to left. -/
def rightToLeftSubtags : List String :=
  ["ae", "ar", "arc", "bcc", "bqi", "ckb", "dv", "fa", "glk", "he", "iw", "ku", "mzn", "nqo",
    "pnb", "prs", "ps", "sd", "ug", "ur", "yi"]

/-- The text before the first hyphen or underscore, without blanks around it and in lower case. -/
def primarySubtag (tag : List Char) : List Char :=
  (Text.trim (tag.takeWhile fun c => c != '-' && c != '_')).map Char.toLower

namespace Direction

/-- A tag that names no known language is written from left to right. -/
def ofTag (tag : String) : Direction :=
  if rightToLeftSubtags.contains (String.ofList (primarySubtag tag.toList)) then rightToLeft
  else leftToRight

def isRightToLeft (direction : Direction) : Bool :=
  direction = rightToLeft

def name : Direction → String
  | leftToRight => "left-to-right"
  | rightToLeft => "right-to-left"

def ofName? (name : String) : Option Direction :=
  [leftToRight, rightToLeft].find? (·.name = name)

end Direction

end Phrasebook.Language
