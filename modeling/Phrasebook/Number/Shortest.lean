import Phrasebook.Number.Double
import Phrasebook.Number.Power

/-! The text of a floating-point number: the fewest decimal digits that read back as the number, and
of the texts with so few digits the nearest one, laid out by the rules of a style. -/

namespace Phrasebook

/-- The number `digits * 10 ^ exponent`. -/
structure Decimal where
  digits : Nat
  exponent : Int
  deriving DecidableEq

namespace Decimal

/-- Which of two equally near numbers is taken: the greater one, or the one with an even last
digit. -/
inductive Tie where
  | up
  | toEven
  deriving DecidableEq

/-- Whether the greater number is taken when the smaller one has these digits. -/
def Tie.goesUp (tie : Tie) (digits : Nat) : Bool :=
  match tie with
  | up => true
  | toEven => digits % 2 == 1

/-- A positive real number and the ends of the interval of reals that round to it, as numerators
over one denominator. -/
structure Interval where
  low : Nat
  value : Nat
  high : Nat
  den : Nat
  /-- Whether the ends round to the value too. -/
  closed : Bool

namespace Interval

/-- The interval of a positive finite magnitude. Below a power of two the numbers lie twice as
dense as above it. -/
def ofMagnitude (magnitude : Nat) : Interval :=
  let (significand, exponent) := FloatFormat.double.parts magnitude
  let dense := significand = 2 ^ (52 : Nat) ∧ FloatFormat.double.leastExponent < exponent
  let scale (n : Nat) := (FloatFormat.shift n 1 (exponent - 2)).1
  { low := scale (4 * significand - if dense then 1 else 2)
    value := scale (4 * significand)
    high := scale (4 * significand + 2)
    den := (FloatFormat.shift 1 1 (exponent - 2)).2
    closed := significand % 2 = 0 }

/-- The number of decimal digits before the point, less the number of zeros right after it when
there are none: the least `k` with `value < 10 ^ k`. -/
def magnitudeTen (i : Interval) : Int :=
  if i.den ≤ i.value then (Nat.toDigits 10 (i.value / i.den)).length
  else 1 - ((Nat.toDigits 10 ((i.den - 1) / i.value)).length : Int)

/-- Whether `digits * 10 ^ exponent` lies in the interval. -/
def contains (i : Interval) (digits : Nat) (exponent : Int) : Bool :=
  let (n, d) := if 0 ≤ exponent then (digits * 10 ^ exponent.toNat, 1)
    else (digits, 10 ^ (-exponent).toNat)
  let scaled := n * i.den
  if i.closed then i.low * d ≤ scaled && scaled ≤ i.high * d
  else i.low * d < scaled && scaled < i.high * d

/-- The multiple of `10 ^ exponent` in the interval that is nearest to the value; of two that are
equally near, the one chosen by `tie`. -/
def nearestMultiple? (i : Interval) (tie : Tie) (exponent : Int) : Option Decimal :=
  let (n, d) := if 0 ≤ exponent then (i.value, i.den * 10 ^ exponent.toNat)
    else (i.value * 10 ^ (-exponent).toNat, i.den)
  let below := n / d
  let up : Bool := d < 2 * (n % d) || (2 * (n % d) == d && tie.goesUp below)
  match i.contains below exponent, i.contains (below + 1) exponent with
  | true, true => some ⟨if up then below + 1 else below, exponent⟩
  | true, false => some ⟨below, exponent⟩
  | false, true => some ⟨below + 1, exponent⟩
  | false, false => none

end Interval

/-- Moves the zeros at the end of the digits into the exponent, at most `fuel` of them. -/
def normalize : (fuel : Nat) → Decimal → Decimal
  | 0, d => d
  | fuel + 1, d =>
    if d.digits % 10 = 0 then normalize fuel ⟨d.digits / 10, d.exponent + 1⟩ else d

/-- Seventeen digits tell any two numbers of double precision apart. -/
def shortest (tie : Tie) (magnitude : Nat) : Decimal :=
  let i := Interval.ofMagnitude magnitude
  let k := i.magnitudeTen
  match (List.range' 1 17).findSome? fun (n : Nat) => i.nearestMultiple? tie (k - n) with
  | some d => d.normalize 17
  | none => ⟨0, 0⟩

end Decimal

/-- How a number is written once its digits are chosen. -/
structure FloatStyle where
  /-- The numbers written without an exponent have a leading digit of at least this power of ten. -/
  plainFrom : Option Int
  /-- The numbers written without an exponent have a leading digit below this power of ten. -/
  plainBelow : Option Int
  /-- What follows the digits of a whole number written without an exponent. -/
  wholeEnding : String
  /-- What stands before an exponent that is not negative. -/
  exponentSign : String
  tie : Decimal.Tie

namespace FloatStyle

/-- All digits, never an exponent, and nothing after a whole number. -/
def plain : FloatStyle := ⟨none, none, "", "", .up⟩

def writesPlain (style : FloatStyle) (leading : Int) : Bool :=
  style.plainFrom.all (· ≤ leading) && style.plainBelow.all (leading < ·)

def zeros (n : Nat) : String :=
  String.ofList (List.replicate n '0')

/-- The digits around a decimal point at the place `point`, counted from the first digit. -/
def positional (style : FloatStyle) (digits : List Char) (point : Int) : String :=
  if point ≤ 0 then "0." ++ zeros (-point).toNat ++ String.ofList digits
  else if digits.length ≤ point.toNat then
    String.ofList digits ++ zeros (point.toNat - digits.length) ++ style.wholeEnding
  else
    String.ofList (digits.take point.toNat) ++ "." ++ String.ofList (digits.drop point.toNat)

def scientific (style : FloatStyle) (digits : List Char) (leading : Int) : String :=
  let fraction := digits.drop 1
  String.ofList (digits.take 1) ++
    (if fraction.isEmpty then "" else "." ++ String.ofList fraction) ++
    "e" ++ (if 0 ≤ leading then style.exponentSign else "") ++ leading.repr

def decimal (style : FloatStyle) (d : Decimal) : String :=
  let digits := Nat.toDigits 10 d.digits
  let leading := digits.length + d.exponent - 1
  if style.writesPlain leading then style.positional digits (leading + 1)
  else style.scientific digits leading

/-- The text of a number in this style. -/
def write (style : FloatStyle) (x : Double) : String :=
  if x.isFinite then
    (if x.negative then "-" else "") ++
      if x.magnitude = 0 then "0" ++ style.wholeEnding
      else style.decimal (Decimal.shortest style.tie x.magnitude)
  else if x.isInfinite then (if x.negative then "-inf" else "inf")
  else "NaN"

end FloatStyle

end Phrasebook
