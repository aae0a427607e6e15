import StubDns.Text.Basic

/-! # Whole numbers in decimal

Reading a whole number that must lie below a limit. The first
character that spoils the number decides what is reported: a character that is
no digit, or the digit that makes the value too large.
-/

namespace StubDns.Whole

inductive ReadError
  | empty
  | invalidDigit
  | tooLarge
  deriving DecidableEq, Repr

def ReadError.message : ReadError → String
  | .empty => "cannot parse integer from empty string"
  | .invalidDigit => "invalid digit found in string"
  | .tooLarge => "number too large to fit in target type"

def render (value : Nat) : Text := Nat.toDigits 10 value

def digit? (char : Char) : Option Nat :=
  if '0' ≤ char ∧ char ≤ '9' then some (char.toNat - '0'.toNat) else none

/-- Read digits after those that make up `value`; every value on the way must
stay below `limit`. -/
def readDigits (limit value : Nat) : Text → Except ReadError Nat
  | [] => .ok value
  | char :: rest =>
      match digit? char with
      | none => .error .invalidDigit
      | some digit =>
          let next := value * 10 + digit
          if next < limit then readDigits limit next rest else .error .tooLarge

/-! The numbers of 8, 16, 32 and 64 bits lie below these limits. -/

def limit8 : Nat := 0x100

def limit16 : Nat := 0x10000

def limit32 : Nat := 0x100000000

def limit64 : Nat := 0x10000000000000000

/-- Read a number below a limit. A plus sign may stand in front. -/
def read (limit : Nat) : Text → Except ReadError Nat
  | [] => .error .empty
  | ['+'] => .error .invalidDigit
  | '+' :: digits => readDigits limit 0 digits
  | digits => readDigits limit 0 digits

example : read limit16 "+0053".toList = .ok 53 := rfl

/-- The value is too large before the letter is seen. -/
example : read limit16 "70000x".toList = .error .tooLarge := rfl

end StubDns.Whole
