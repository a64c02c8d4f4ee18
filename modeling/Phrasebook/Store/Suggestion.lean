import Phrasebook.Store.Basic
import Phrasebook.Text.Distance

/-! Names that a mistyped name may stand for. -/

namespace Phrasebook

/-- A stored name and its distance from the name asked for. -/
structure Suggestion where
  distance : Nat
  name : String
  deriving DecidableEq

namespace Suggestion

/-- A name of up to three bytes allows one edit, a longer one two. -/
def limit (name : String) : Nat :=
  if name.utf8ByteSize ≤ 3 then 1 else 2

/-- The name itself is no suggestion. -/
def of? (asked stored : String) : Option Suggestion :=
  let distance := Text.distance asked.toList stored.toList
  if 0 < distance ∧ distance ≤ limit asked then some ⟨distance, stored⟩ else none

def le (a b : Suggestion) : Bool :=
  a.distance ≤ b.distance

end Suggestion

/-- Up to three names close to the one asked for. The closest come first, and of those at the same
distance the ones added first. -/
def Store.suggest (store : Store) (name : String) : List String :=
  (((store.names.filterMap (Suggestion.of? name)).mergeSort Suggestion.le).take 3).map (·.name)

end Phrasebook
