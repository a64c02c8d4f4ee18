import Phrasebook.Number.Double
import Phrasebook.Number.Integer
import Phrasebook.Number.Power
import Phrasebook.Text.Cut

/-! Decimal text as the nearest floating-point number. -/

namespace Phrasebook

/-- A decimal numeral: digits without and with a point among them, and a power of ten. -/
structure Numeral where
  whole : List Char
  fraction : List Char
  exponent : Int

namespace Numeral

def significand (n : Numeral) : Nat :=
  Nat.ofDigitChars 10 (n.whole ++ n.fraction) 0

/-- The power of ten of the last digit. -/
def scale (n : Numeral) : Int :=
  n.exponent - n.fraction.length

/-- Any format is exceeded from ten to the power 310 on, and half its least number is not reached
below ten to the power -330; so no greater power of ten is ever computed. -/
def nearest (f : FloatFormat) (n : Numeral) : Nat :=
  let significand := n.significand
  let length : Int := (Nat.toDigits 10 significand).length
  if significand = 0 ∨ length + n.scale ≤ -330 then 0
  else if 310 < length + n.scale then f.infinity
  else if 0 ≤ n.scale then f.nearest (significand * 10 ^ n.scale.toNat) 1
  else f.nearest significand (10 ^ (-n.scale).toNat)

/-- The exponent after its mark: an optional sign and one or more digits. -/
def exponent? : List Char → Option Int
  | '+' :: digits => (Integer.natural? digits).map fun n => (n : Int)
  | '-' :: digits => (Integer.natural? digits).map fun n => -(n : Int)
  | digits => (Integer.natural? digits).map fun n => (n : Int)

/-- Digits with at most one point among them, and at least one digit. -/
def mantissa? (s : List Char) : Option (List Char × List Char) :=
  let (whole, fraction) := (Text.cutAt '.' s).getD (s, [])
  if whole.all Char.isDigit && fraction.all Char.isDigit && !(whole ++ fraction).isEmpty then
    some (whole, fraction)
  else none

def read? (s : List Char) : Option Numeral :=
  match Text.cutWhere (fun c => c == 'e' || c == 'E') s with
  | some (front, back) => do
    let (whole, fraction) ← mantissa? front
    let exponent ← exponent? back
    some ⟨whole, fraction, exponent⟩
  | none => do
    let (whole, fraction) ← mantissa? s
    some ⟨whole, fraction, 0⟩

end Numeral

namespace FloatFormat

/-- The magnitude that a text without sign names: a numeral, an infinity, or not a number. -/
def magnitude? (f : FloatFormat) (s : List Char) : Option Nat :=
  let word := String.ofList (s.map Char.toLower)
  if word = "inf" ∨ word = "infinity" then some f.infinity
  else if word = "nan" then some (f.infinity + 2 ^ (f.fractionBits - 1))
  else (Numeral.read? s).map (·.nearest f)

/-- Reads an optional sign and a magnitude. -/
def read? (f : FloatFormat) : List Char → Option (Bool × Nat)
  | '+' :: s => (f.magnitude? s).map fun m => (false, m)
  | '-' :: s => (f.magnitude? s).map fun m => (true, m)
  | s => (f.magnitude? s).map fun m => (false, m)

end FloatFormat

namespace Double

/-- The number of double precision nearest to the one that the text names. -/
def read? (s : String) : Option Double := do
  let (negative, magnitude) ← FloatFormat.double.read? s.toList
  if h : magnitude < 2 ^ (63 : Nat) then some ⟨negative, magnitude, h⟩ else none

/-- The same for a text that is first rounded to single precision. -/
def readSingle? (s : String) : Option Double :=
  (FloatFormat.single.read? s.toList).map fun (negative, magnitude) => ofSingle negative magnitude

end Double

end Phrasebook
