import Phrasebook.Json.Number

/-! JSON as it is written. Strings with half of a surrogate pair and numbers that are too large
follow the grammar, but no value can be read from them; here they hold none. -/

namespace Phrasebook.Json

inductive Raw where
  | null
  | bool (b : Bool)
  | number (n : Option Number)
  | string (s : Option String)
  | array (items : List Raw)
  | object (members : List (Option String × Raw))

namespace Raw

mutual

/-- Whether every string and every number has a value, and arrays and objects stand in one another
no deeper than `levels`. -/
def isSound (levels : Nat) : Raw → Bool
  | null | bool _ => true
  | number n => n.isSome
  | string s => s.isSome
  | array items => levels != 0 && areSound (levels - 1) items
  | object members => levels != 0 && haveSound (levels - 1) members

def areSound (levels : Nat) : List Raw → Bool
  | [] => true
  | item :: items => item.isSound levels && areSound levels items

def haveSound (levels : Nat) : List (Option String × Raw) → Bool
  | [] => true
  | (key, value) :: members =>
    key.isSome && value.isSound levels && haveSound levels members

end

end Raw

end Phrasebook.Json
