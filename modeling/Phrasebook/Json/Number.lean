import Phrasebook.Number.Double
import Phrasebook.Number.Power

/-! Numbers in JSON. Integers stay exact as far as 64 bits go. Any other number is read from its
first digits, as many as fit 64 bits, and is rounded twice: these digits are rounded to double
precision, and the result is rounded again when it is scaled by a power of ten. -/

namespace Phrasebook.Json

inductive Number where
  /-- A natural number below two to the power 64. -/
  | natural (n : Nat)
  /-- A negative integer that fits 64 bits. -/
  | negative (n : Int)
  | float (x : Double)
  deriving DecidableEq

/-- A number as it is written: its digits before the point and after it, and the sign and digits of
its exponent. -/
structure Number.Written where
  negative : Bool
  whole : List Char
  fraction : Option (List Char)
  exponent : Option (Bool × List Char)
  deriving DecidableEq

namespace Number

/-- Appends digits to a number as long as it stays below two to the power 64, and gives the digits
that are left. -/
def appendDigits : (n : Nat) → List Char → Nat × List Char
  | n, [] => (n, [])
  | n, c :: digits =>
    let next := 10 * n + (c.toNat - '0'.toNat)
    if next < 2 ^ (64 : Nat) then appendDigits next digits else (n, c :: digits)

def powerOfTen (k : Nat) : Double :=
  Double.ofInt (10 ^ k)

/-- Scales a number by a power of ten, none when the result is too large. Ten to the power 308 is
the greatest factor. -/
def scale (x : Double) (e : Int) : Option Double :=
  if x.magnitude = 0 then some x
  else if 308 < e then none
  else if 0 ≤ e then
    let scaled := x.scaleUp (powerOfTen e.toNat)
    if scaled.isInfinite then none else some scaled
  else if -308 ≤ e then some (x.scaleDown (powerOfTen (-e).toNat))
  else scale (x.scaleDown (powerOfTen 308)) (e + 308)
termination_by (-e).toNat
decreasing_by omega

/-- The digits times a power of ten, with a sign. -/
def assemble (negative : Bool) (digits : Nat) (e : Int) : Option Double :=
  (scale (Double.ofInt digits) e).map fun x => { x with negative }

/-- The exponents beyond 32 bits give zero, unless they make a number too large. -/
def assembleHuge (negative exponentNegative : Bool) (digits : Nat) : Option Double :=
  if digits = 0 ∨ exponentNegative then some (Double.zero negative) else none

namespace Written

/-- A number written without point or exponent whose digits all fit. -/
def integer (negative : Bool) (n : Nat) : Number :=
  if !negative then natural n
  else if 0 < n ∧ n ≤ 2 ^ (63 : Nat) then .negative (-n)
  else float { Double.ofInt n with negative := true }

/-- The number that is written, none when it is too large. -/
def value? (w : Written) : Option Number :=
  let (digits, left) := appendDigits 0 w.whole
  match left, w.fraction, w.exponent with
  | [], none, none => some (integer w.negative digits)
  | _, _, _ =>
    let fraction := w.fraction.getD []
    let (digits, ignored) := appendDigits digits fraction
    let e : Int := left.length - (fraction.length - ignored.length : Nat)
    match w.exponent with
    | none => (assemble w.negative digits e).map float
    | some (exponentNegative, exponentDigits) =>
      let exponent : Int := Nat.ofDigitChars 10 exponentDigits 0
      if 2 ^ (31 : Nat) ≤ exponent then (assembleHuge w.negative exponentNegative digits).map float
      else
        let exponent := if exponentNegative then -exponent else exponent
        (assemble w.negative digits (e + exponent)).map float

end Written

end Number

end Phrasebook.Json
