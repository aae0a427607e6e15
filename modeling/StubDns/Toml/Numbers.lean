import StubDns.Toml.Strings
import StubDns.Toml.Value

/-! # Numbers of a document

Whole numbers in four bases and fractions. An underscore may stand between two
digits. A whole number must fit in 64 bits with a sign, and a fraction too
large for a double is refused unless it is negative.
-/

namespace StubDns.Toml

/-! ## Digits -/

/-- Read digits of a base after a first one. An underscore needs a digit behind
it. -/
def readMoreDigits (base : Nat) : Text → Option (Text × Text)
  | [] => some ([], [])
  | '_' :: char :: rest =>
      if (digitOfBase? base char).isSome then do
        let (digits, after) ← readMoreDigits base rest
        return (char :: digits, after)
      else
        none
  | char :: rest =>
      if (digitOfBase? base char).isSome then do
        let (digits, after) ← readMoreDigits base rest
        return (char :: digits, after)
      else
        some ([], char :: rest)

/-- Read at least one digit of a base. -/
def readDigits (base : Nat) : Text → Option (Text × Text)
  | [] => none
  | char :: rest =>
      if (digitOfBase? base char).isSome then do
        let (digits, after) ← readMoreDigits base rest
        return (char :: digits, after)
      else
        none

/-- Read the digits of a decimal whole number: a zero stands alone. -/
def readWholeDigits : Text → Option (Text × Text)
  | '0' :: rest => some (['0'], rest)
  | text => readDigits 10 text

def readSign : Text → Bool × Text
  | '+' :: rest => (false, rest)
  | '-' :: rest => (true, rest)
  | text => (false, text)

/-! ## Whole numbers -/

/-- Whole numbers lie between this limit and its opposite. -/
def integerLimit : Int := 0x8000000000000000

/-- A whole number that fits. -/
def boundedInteger (negative : Bool) (magnitude : Nat) : Option Scalar :=
  let value : Int := if negative then -magnitude else magnitude
  if -integerLimit ≤ value ∧ value < integerLimit then some (.integer value) else none

/-- Read the digits of a base after its letter. -/
def readOfBase (base : Nat) (text : Text) : Option (Scalar × Text) := do
  let (digits, rest) ← readDigits base text
  let magnitude ← valueOfBase? base digits
  let value ← boundedInteger false magnitude
  return (value, rest)

/-! ## Fractions -/

/-- Read a point and the digits behind it, if there is a point. -/
def readFractionDigits : Text → Option (Text × Text)
  | '.' :: rest => readDigits 10 rest
  | text => some ([], text)

/-- Read an exponent, if there is one. -/
def readExponent (text : Text) : Option (Int × Text) :=
  match text with
  | char :: rest =>
      if char = 'e' ∨ char = 'E' then do
        let (negative, rest) := readSign rest
        let (digits, rest) ← readDigits 10 rest
        let magnitude ← valueOfBase? 10 digits
        return (if negative then -magnitude else magnitude, rest)
      else
        some (0, text)
  | [] => some (0, [])

/-- A fraction, unless it is too large. -/
def boundedFloat (negative : Bool) (digits : Nat) (exponent : Int) : Option Scalar :=
  let value := Binary64.ofDecimal negative digits exponent
  if value = Binary64.infinity false then none else some (.float value)

/-- The text goes on with a point or an exponent. -/
def continuesFloat : Text → Bool
  | char :: _ => char = '.' || char = 'e' || char = 'E'
  | [] => false

/-- Read a decimal number after its sign. -/
def readDecimal (negative : Bool) (text : Text) : Option (Scalar × Text) := do
  let (whole, rest) ← readWholeDigits text
  if continuesFloat rest then
    let (fraction, rest) ← readFractionDigits rest
    let (exponent, rest) ← readExponent rest
    let digits ← valueOfBase? 10 (whole ++ fraction)
    let value ← boundedFloat negative digits (exponent - fraction.length)
    return (value, rest)
  else
    let magnitude ← valueOfBase? 10 whole
    let value ← boundedInteger negative magnitude
    return (value, rest)

/-- Read a number that has a sign or may have one. -/
def readSigned (text : Text) : Option (Scalar × Text) :=
  match readSign text with
  | (negative, 'i' :: 'n' :: 'f' :: rest) => some (.float (.infinity negative), rest)
  | (_, 'n' :: 'a' :: 'n' :: rest) => some (.float .notANumber, rest)
  | (negative, rest) => readDecimal negative rest

/-- Read a number. Bases other than ten take no sign. -/
def readNumber : Text → Option (Scalar × Text)
  | '0' :: 'x' :: rest => readOfBase 16 rest
  | '0' :: 'o' :: rest => readOfBase 8 rest
  | '0' :: 'b' :: rest => readOfBase 2 rest
  | text => readSigned text

example : readNumber "-9223372036854775808".toList =
    some (.integer (-9223372036854775808), []) := by decide +kernel

example : readNumber "1__0".toList = none := by decide +kernel

end StubDns.Toml
