import Phrasebook.Number.Power

/-! Binary floating-point numbers, held as their bits, and exact rounding of fractions to them. The
magnitude of a number is its bits below the sign, read as a natural number: it grows with the
absolute value, and what lies above the magnitude of infinity is not a number. -/

namespace Phrasebook

/-- The widths of the two fields below the sign bit. -/
structure FloatFormat where
  exponentBits : Nat
  fractionBits : Nat
  deriving DecidableEq

namespace FloatFormat

def single : FloatFormat := ⟨8, 23⟩

def double : FloatFormat := ⟨11, 52⟩

/-- All numbers of the format are whole multiples of two to this power. -/
def leastExponent (f : FloatFormat) : Int :=
  2 - 2 ^ (f.exponentBits - 1) - f.fractionBits

/-- The magnitude of infinity: an exponent field of ones and an empty fraction. -/
def infinity (f : FloatFormat) : Nat :=
  (2 ^ f.exponentBits - 1) * 2 ^ f.fractionBits

/-- The whole number nearest to `num / den`, the even one of two. -/
def roundDiv (num den : Nat) : Nat :=
  let quotient := num / den
  let remainder := num % den
  if 2 * remainder < den then quotient
  else if den < 2 * remainder then quotient + 1
  else quotient + quotient % 2

/-- `num / den` times two to the power `e`, again as a fraction. -/
def shift (num den : Nat) (e : Int) : Nat × Nat :=
  if 0 ≤ e then (num * 2 ^ e.toNat, den) else (num, den * 2 ^ (-e).toNat)

/-- The greatest power of two that is at most `num / den`. -/
def leadingExponent (num den : Nat) : Int :=
  let e : Int := (num.log2 : Int) - den.log2
  let (n, d) := shift num den (-e)
  if d ≤ n then e else e - 1

/-- The magnitude of the number of the format that is nearest to `num / den`, the one with an even
significand of two. Fractions too large for the format have the magnitude of infinity. -/
def nearest (f : FloatFormat) (num den : Nat) : Nat :=
  if num = 0 then 0
  else
    let q := max (leadingExponent num den - f.fractionBits) f.leastExponent
    let (n, d) := shift num den (-q)
    min f.infinity ((q - f.leastExponent).toNat * 2 ^ f.fractionBits + roundDiv n d)

theorem nearest_le_infinity (f : FloatFormat) (num den : Nat) :
    f.nearest num den ≤ f.infinity := by
  unfold nearest
  split
  · exact Nat.zero_le _
  · exact Nat.min_le_left ..

/-- A finite magnitude as a significand and a power of two. -/
def parts (f : FloatFormat) (magnitude : Nat) : Nat × Int :=
  let field := magnitude / 2 ^ f.fractionBits
  let fraction := magnitude % 2 ^ f.fractionBits
  if field = 0 then (fraction, f.leastExponent)
  else (2 ^ f.fractionBits + fraction, f.leastExponent + (field - 1 : Nat))

end FloatFormat

/-- A floating-point number of double precision. -/
structure Double where
  negative : Bool
  magnitude : Nat
  magnitude_lt : magnitude < 2 ^ (63 : Nat)
  deriving DecidableEq

namespace Double

open FloatFormat (double)

/-- The number nearest to a fraction. -/
def ofRatio (negative : Bool) (num den : Nat) : Double :=
  ⟨negative, double.nearest num den,
    Nat.lt_of_le_of_lt (double.nearest_le_infinity num den) (by decide)⟩

def infinite (negative : Bool) : Double :=
  ⟨negative, double.infinity, by decide⟩

/-- The usual quiet value among those that are not numbers. -/
def undefined (negative : Bool) : Double :=
  ⟨negative, double.infinity + 2 ^ (51 : Nat), by decide⟩

def zero (negative : Bool) : Double :=
  ⟨negative, 0, by decide⟩

def ofInt (n : Int) : Double :=
  ofRatio (n < 0) n.natAbs 1

def one : Double :=
  ofInt 1

def isFinite (x : Double) : Bool :=
  x.magnitude < double.infinity

def isInfinite (x : Double) : Bool :=
  x.magnitude == double.infinity

/-- The magnitude of a finite number as a fraction. -/
def ratio (x : Double) : Nat × Nat :=
  let (significand, exponent) := double.parts x.magnitude
  FloatFormat.shift significand 1 exponent

/-- The product of the absolute values, rounded once, with the sign of `x`. -/
def scaleUp (x factor : Double) : Double :=
  let (n, d) := x.ratio
  let (n', d') := factor.ratio
  ofRatio x.negative (n * n') (d * d')

/-- The quotient of the absolute values, rounded once, with the sign of `x`. -/
def scaleDown (x divisor : Double) : Double :=
  let (n, d) := x.ratio
  let (n', d') := divisor.ratio
  ofRatio x.negative (n * d') (d * n')

/-- The place of a number in the total order: negative before positive, by magnitude, with what is
not a number at the two ends and the two zeros apart. -/
def rank (x : Double) : Int :=
  if x.negative then -1 - (x.magnitude : Int) else x.magnitude

/-- A number of single precision, given by its sign and magnitude, as one of double precision. -/
def ofSingle (negative : Bool) (magnitude : Nat) : Double :=
  if magnitude < FloatFormat.single.infinity then
    let (significand, exponent) := FloatFormat.single.parts magnitude
    let (n, d) := FloatFormat.shift significand 1 exponent
    ofRatio negative n d
  else if magnitude = FloatFormat.single.infinity then infinite negative
  else undefined negative

end Double

end Phrasebook
