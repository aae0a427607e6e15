/-! # Doubles

A double is its 64 bits. Everything that is done with one here is exact
arithmetic on the mantissa and exponent that the bits stand for: rounding a
decimal fraction to the nearest double, and rounding a double to a whole
number.
-/

namespace StubDns

/-- A binary floating-point number of 64 bits. -/
structure Binary64 where
  bits : UInt64
  deriving DecidableEq, Repr

namespace Binary64

/-! ## Meaning of the bits -/

/-- What the bits stand for. A finite double is `mantissa · 2 ^ exponent`. -/
inductive Meaning
  | notANumber
  | infinite (negative : Bool)
  | finite (negative : Bool) (mantissa : Nat) (exponent : Int)
  deriving DecidableEq, Repr

/-- Doubles of the smallest exponent share it with the numbers below them. -/
def smallestExponent : Int := -1074

/-- The highest bit, which tells negative doubles. -/
def signBit : Nat := 0x8000000000000000

/-- The number of fractions that share an exponent. -/
def fractions : Nat := 0x10000000000000

/-- The number of values of the exponent field. -/
def exponents : Nat := 0x800

/-- The exponent field of infinities and of what is no number. -/
def reservedExponent : Nat := 0x7FF

def meaning (value : Binary64) : Meaning :=
  let bits := value.bits.toNat
  let negative := signBit ≤ bits
  let exponent := bits / fractions % exponents
  let fraction := bits % fractions
  if exponent = reservedExponent then
    if fraction = 0 then .infinite negative else .notANumber
  else if exponent = 0 then
    .finite negative fraction smallestExponent
  else
    .finite negative (fractions + fraction) (exponent - 1 + smallestExponent)

/-! ## Making doubles -/

/-- Put a sign on the bits of a magnitude. -/
def withSign (negative : Bool) (magnitude : Nat) : Binary64 :=
  ⟨UInt64.ofNat (if negative then signBit + magnitude else magnitude)⟩

def infinity (negative : Bool) : Binary64 := withSign negative (reservedExponent * fractions)

/-- The quiet double that is no number. -/
def notANumber : Binary64 := ⟨0x7FF8000000000000⟩

def zero (negative : Bool) : Binary64 := withSign negative 0

/-- The quotient rounded to the nearest whole number, ties to the even one. -/
def roundQuotient (numerator denominator : Nat) : Nat :=
  let quotient := numerator / denominator
  let double := 2 * (numerator % denominator)
  if double < denominator ∨ (double = denominator ∧ quotient % 2 = 0) then
    quotient
  else
    quotient + 1

example : roundQuotient 5 2 = 2 ∧ roundQuotient 7 2 = 4 ∧ roundQuotient 8 3 = 3 := by decide

/-- The quotient scaled by a power of two. -/
def scaled (numerator denominator : Nat) (exponent : Int) : Nat × Nat :=
  if 0 ≤ exponent then
    (numerator, denominator * Nat.pow 2 exponent.toNat)
  else
    (numerator * Nat.pow 2 (-exponent).toNat, denominator)

/-- The exponent at which a quotient has 53 binary digits before the point, or
the smallest exponent there is. -/
def exponentFor (numerator denominator : Nat) : Int :=
  let estimate : Int := (numerator.log2 : Int) - denominator.log2 - 52
  let parts := scaled numerator denominator estimate
  let exponent := if parts.1 / parts.2 < fractions then estimate - 1 else estimate
  if exponent < smallestExponent then smallestExponent else exponent

/-- The bits of the double nearest to a positive quotient. A mantissa that
rounds up to the next power of two carries into the exponent. -/
def magnitudeOfQuotient (numerator denominator : Nat) : Nat :=
  let exponent := exponentFor numerator denominator
  let parts := scaled numerator denominator exponent
  let mantissa := roundQuotient parts.1 parts.2
  if mantissa < fractions then
    mantissa
  else
    min ((exponent - smallestExponent).toNat * fractions + mantissa) (reservedExponent * fractions)

/-- The double nearest to `digits · 10 ^ exponent`. Values beyond the largest
double become infinite. -/
def ofDecimal (negative : Bool) (digits : Nat) (exponent : Int) : Binary64 :=
  let magnitude : Int := exponent + (Nat.toDigits 10 digits).length
  if digits = 0 ∨ magnitude < -400 then
    zero negative
  else if 400 < magnitude then
    infinity negative
  else if 0 ≤ exponent then
    withSign negative (magnitudeOfQuotient (digits * Nat.pow 10 exponent.toNat) 1)
  else
    withSign negative (magnitudeOfQuotient digits (Nat.pow 10 (-exponent).toNat))

example : ofDecimal false 5 (-324) = ⟨1⟩ := by decide +kernel

/-! ## Rounding to a whole number -/

/-- The nearest whole number of 64 bits, a half going up. Negative doubles and
what is no number give 0; what is too large gives the largest number. -/
def toWhole (value : Binary64) : Nat :=
  let largest := 0xFFFFFFFFFFFFFFFF
  match value.meaning with
  | .notANumber => 0
  | .infinite negative => if negative then 0 else largest
  | .finite negative mantissa exponent =>
      if negative then
        0
      else if 0 ≤ exponent then
        min (mantissa * Nat.pow 2 exponent.toNat) largest
      else
        (2 * mantissa + Nat.pow 2 (-exponent).toNat) / Nat.pow 2 ((-exponent).toNat + 1)

/-- A half goes up, and the double just below a half goes down. -/
example : (ofDecimal false 525 (-1)).toWhole = 53 ∧
    (ofDecimal false 49999999999999994 (-17)).toWhole = 0 := by decide +kernel

end Binary64

end StubDns
