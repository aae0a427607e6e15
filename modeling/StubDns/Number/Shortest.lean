import StubDns.Number.Binary64
import StubDns.Text.Basic

/-! # Shortest decimal text of a double

The text of a double has the fewest digits that read back as the same double,
and of those the digits nearest to it. It is always written out in full,
without an exponent.

A double stands for every number that rounds to it: the interval up to the
middle between it and its neighbours, ends included when its mantissa is even.
For a growing number of digits the two decimal numbers around the double are
tried until one of them lies in the interval.
-/

namespace StubDns.Binary64

/-! ## The interval of a double -/

/-- The numbers `n / denominator` that round to a double: those with `lower`,
`upper` around `centre`. -/
structure Interval where
  lower : Nat
  centre : Nat
  upper : Nat
  denominator : Nat
  closed : Bool

namespace Interval

/-- The interval of the positive double `mantissa · 2 ^ exponent`. Below a power
of two the neighbours lie half as far apart. -/
def ofFinite (mantissa : Nat) (exponent : Int) : Interval :=
  let atPower := mantissa = fractions ∧ smallestExponent < exponent
  let unit := if 0 ≤ exponent then Nat.pow 2 exponent.toNat else 1
  let denominator := if 0 ≤ exponent then 4 else 4 * Nat.pow 2 (-exponent).toNat
  let lower := if atPower then 4 * mantissa - 1 else 4 * mantissa - 2
  { lower := lower * unit
    centre := 4 * mantissa * unit
    upper := (4 * mantissa + 2) * unit
    denominator := denominator
    closed := mantissa % 2 = 0 }

/-- The fraction lies in the interval. -/
def holds (interval : Interval) (numerator denominator : Nat) : Bool :=
  let value := numerator * interval.denominator
  let lower := interval.lower * denominator
  let upper := interval.upper * denominator
  (lower < value && value < upper) || (interval.closed && (lower == value || value == upper))

end Interval

/-! ## Decimal grids -/

/-- The decimal number `digits · 10 ^ exponent`. -/
structure Decimal where
  digits : Nat
  exponent : Int
  deriving DecidableEq, Repr

/-- A power of ten as a fraction. -/
def powerOfTen (exponent : Int) : Nat × Nat :=
  if 0 ≤ exponent then (Nat.pow 10 exponent.toNat, 1) else (1, Nat.pow 10 (-exponent).toNat)

/-- The multiple of `10 ^ exponent` next to the centre of an interval that lies
in it, the nearer one if both neighbours do. -/
def onGrid (interval : Interval) (exponent : Int) : Option Decimal :=
  let unit := powerOfTen exponent
  let numerator := interval.centre * unit.2
  let denominator := interval.denominator * unit.1
  let below := numerator / denominator
  let remainder := numerator % denominator
  let fits (digits : Nat) := interval.holds (digits * unit.1) unit.2
  match decide (0 < below) && fits below, fits (below + 1) with
  | true, true => some ⟨if 2 * remainder < denominator then below else below + 1, exponent⟩
  | true, false => some ⟨below, exponent⟩
  | false, true => some ⟨below + 1, exponent⟩
  | false, false => none

/-- The exponent of the first decimal digit of the centre. -/
def leadingExponent (interval : Interval) : Int :=
  if interval.denominator ≤ interval.centre then
    (Nat.toDigits 10 (interval.centre / interval.denominator)).length - 1
  else
    -((Nat.toDigits 10 (interval.denominator / interval.centre)).length : Int)

/-- The first grid with a hit, from coarse to fine. -/
def firstHit (interval : Interval) : Int → Nat → Option Decimal
  | _, 0 => none
  | exponent, tries + 1 =>
      match onGrid interval exponent with
      | some hit => some hit
      | none => firstHit interval (exponent - 1) tries

/-- The shortest decimal number that reads back as a positive double. Seventeen
digits always do. -/
def shortest (mantissa : Nat) (exponent : Int) : Decimal :=
  let interval := Interval.ofFinite mantissa exponent
  (firstHit interval (leadingExponent interval + 1) 20).getD ⟨mantissa, exponent⟩

/-! ## Writing out -/

def Decimal.render (number : Decimal) : Text :=
  let digits := Nat.toDigits 10 number.digits
  if 0 ≤ number.exponent then
    digits ++ List.replicate number.exponent.toNat '0'
  else
    let places := (-number.exponent).toNat
    let padded := List.replicate (places + 1 - digits.length) '0' ++ digits
    let whole := padded.length - places
    padded.take whole ++ '.' :: padded.drop whole

def render (value : Binary64) : Text :=
  match value.meaning with
  | .notANumber => "NaN".toList
  | .infinite negative => (if negative then "-inf" else "inf").toList
  | .finite negative mantissa exponent =>
      let magnitude := if mantissa = 0 then ['0'] else (shortest mantissa exponent).render
      if negative then '-' :: magnitude else magnitude

example : (ofDecimal false 1 (-7)).render = "0.0000001".toList := by decide +kernel

example : (zero true).render = "-0".toList := by decide +kernel

end StubDns.Binary64
