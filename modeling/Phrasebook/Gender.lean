import Phrasebook.Text.Blank

/-! The grammatical gender a message is written for. -/

namespace Phrasebook

inductive Gender where
  | male
  | female
  deriving DecidableEq

namespace Gender

def name : Gender → String
  | male => "male"
  | female => "female"

/-- Reads a gender word or its first letter, in any ASCII case. -/
def parse? (word : List Char) : Option Gender :=
  let lowered := word.map Char.toLower
  if lowered = ['m', 'a', 'l', 'e'] ∨ lowered = ['m'] then some male
  else if lowered = ['f', 'e', 'm', 'a', 'l', 'e'] ∨ lowered = ['f'] then some female
  else none

/-- A text that names no gender. -/
structure Invalid where
  text : String
  deriving DecidableEq

def Invalid.message (error : Invalid) : String :=
  "invalid gender '" ++ error.text ++ "': expected one of male, m, female, f"

/-- Reads a gender with blanks around it; an error holds the text as it was given. -/
def read (text : String) : Except Invalid Gender :=
  match parse? (Text.trim text.toList) with
  | some gender => .ok gender
  | none => .error ⟨text⟩

end Gender

end Phrasebook
