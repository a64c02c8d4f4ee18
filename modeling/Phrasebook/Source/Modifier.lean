import Phrasebook.Gender
import Phrasebook.Source.Key

/-! What the entries of a key's metadata say about a message. -/

namespace Phrasebook

inductive Modifier where
  | gender (gender : Gender)
  | countRange (range : CountRange)
  | attribute (name value : String)
  | invalid (word : String)
  deriving DecidableEq

namespace Key.Token

/-- An entry with a value is an attribute, whatever its name; a word is a gender or a range. -/
def meaning : Token → Modifier
  | assigned name value => .attribute name value
  | bare word =>
    match Gender.parse? word.toList with
    | some gender => .gender gender
    | none =>
      match CountRange.parse? word.toList with
      | some range => .countRange range
      | none => .invalid word

end Key.Token

end Phrasebook
