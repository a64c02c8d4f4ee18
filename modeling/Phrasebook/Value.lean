import Phrasebook.Number.Shortest
import Phrasebook.Number.Integer

/-! The values that parameters of a template stand for. -/

namespace Phrasebook

inductive Value where
  | number (n : Int64)
  | float (x : Double)
  | string (s : String)
  deriving DecidableEq

namespace Value

/-- An integer that does not fit 64 bits wraps around. -/
def ofInt (n : Int) : Value :=
  number (Int64.ofInt n)

def number? : Value → Option Int64
  | number n => some n
  | _ => none

/-- Integers widen to the nearest floating-point number. -/
def float? : Value → Option Double
  | number n => some (Double.ofInt n.toInt)
  | float x => some x
  | string _ => none

def string? : Value → Option String
  | string s => some s
  | _ => none

/-- The text that stands for the value in a rendered message. -/
def text : Value → String
  | number n => Integer.text n
  | float x => FloatStyle.plain.write x
  | string s => s

/-- A text that reads as an integer stands for that integer. -/
def ofText (s : String) : Value :=
  match Integer.read? s.toList with
  | some n => number n
  | none => string s

end Value

end Phrasebook
