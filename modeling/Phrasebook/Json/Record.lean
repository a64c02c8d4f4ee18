import Phrasebook.Dictionary
import Phrasebook.Json.Raw
import Phrasebook.Number.Integer

/-! Values of fixed types from JSON. A record may be given as an object, or as an array of its
fields in their order. -/

namespace Phrasebook.Json

namespace Raw

def string? : Raw → Option String
  | string s => s
  | _ => none

def int64? : Raw → Option Int64
  | number (some (.natural n)) => Integer.ofInt? n
  | number (some (.negative n)) => Integer.ofInt? n
  | _ => none

/-- Integers are rounded to double precision. -/
def double? : Raw → Option Double
  | number (some (.natural n)) => some (Double.ofInt n)
  | number (some (.negative n)) => some (Double.ofInt n)
  | number (some (.float x)) => some x
  | _ => none

def list? {α : Type} (item? : Raw → Option α) : Raw → Option (List α)
  | array items => items.mapM item?
  | _ => none

/-- Of two members with the same key the later one counts, but both must be readable. -/
def dictionary? {α : Type} (value? : Raw → Option α) : Raw → Option (Dictionary α)
  | object members => do
    let entries ← members.mapM fun (key, value) => do
      let key ← key
      let value ← value? value
      some (key, value)
    some (.ofList entries)
  | _ => none

def nullable? {α : Type} (value? : Raw → Option α) : Raw → Option (Option α)
  | null => some none
  | raw => (value? raw).map some

end Raw

/-- A field of a record. -/
inductive Field where
  | given (value : Raw)
  /-- The object has no such member. -/
  | missing
  /-- The array ends before the field. -/
  | cut

namespace Field

def required? {α : Type} (value? : Raw → Option α) : Field → Option α
  | given value => value? value
  | missing | cut => none

/-- An object may leave the field out, an array may not. -/
def optional? {α : Type} (value? : Raw → Option α) : Field → Option (Option α)
  | given value => value.nullable? value?
  | missing => some none
  | cut => none

def defaulted? {α : Type} (default : α) (value? : Raw → Option α) : Field → Option α
  | given value => value? value
  | missing | cut => some default

end Field

/-- The members of an object that are fields of a record. Other members are not looked at, apart
from their keys. -/
def knownMembers? (names : List String) : List (Option String × Raw) → Option (List (String × Raw))
  | [] => some []
  | (key, value) :: members => do
    let key ← key
    let rest ← knownMembers? names members
    some (if names.contains key then (key, value) :: rest else rest)

/-- The fields of a record, whose names are given. No field may occur twice, and an array may not
hold more. -/
def Raw.fields? (names : List String) : Raw → Option (List Field)
  | array items =>
    if items.length ≤ names.length then
      some (items.map .given ++ List.replicate (names.length - items.length) .cut)
    else none
  | object members => do
    let known ← knownMembers? names members
    if (known.map (·.1)).Nodup then
      some (names.map fun name =>
        match known.find? (·.1 == name) with
        | some (_, value) => .given value
        | none => .missing)
    else none
  | _ => none

end Phrasebook.Json
