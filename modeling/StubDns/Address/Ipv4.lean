import StubDns.Number.Whole
import StubDns.Text.Basic

/-! # IPv4 addresses

Four octets, written in decimal with dots. Reading is strict: each octet has
one to three digits, no leading zero and a value below 256, and nothing may
follow.
-/

namespace StubDns

structure Ipv4 where
  first : UInt8
  second : UInt8
  third : UInt8
  fourth : UInt8
  deriving DecidableEq, Repr

namespace Ipv4

/-- The octets in the order of the wire. -/
def octets (address : Ipv4) : List UInt8 :=
  [address.first, address.second, address.third, address.fourth]

/-- The address that stands for any address or for none. -/
def isUnspecified (address : Ipv4) : Bool := address.octets.all (· = 0)

def render (address : Ipv4) : Text :=
  Text.join '.' (address.octets.map fun octet => Whole.render octet.toNat)

/-- Read the octet that a text starts with. A fourth digit, or a digit after a
leading zero, spoils it. -/
def readOctet (text : Text) : Option (UInt8 × Text) :=
  let digits := text.takeWhile fun char => (Whole.digit? char).isSome
  let rest := text.dropWhile fun char => (Whole.digit? char).isSome
  if digits.length = 0 ∨ 3 < digits.length ∨ (digits.head? = some '0' ∧ 1 < digits.length) then
    none
  else
    match Whole.read Whole.limit8 digits with
    | .ok value => some (UInt8.ofNat value, rest)
    | .error _ => none

def readDotOctet : Text → Option (UInt8 × Text)
  | '.' :: rest => readOctet rest
  | _ => none

def readStart (text : Text) : Option (Ipv4 × Text) := do
  let (first, rest) ← readOctet text
  let (second, rest) ← readDotOctet rest
  let (third, rest) ← readDotOctet rest
  let (fourth, rest) ← readDotOctet rest
  return (⟨first, second, third, fourth⟩, rest)

/-- Read a text that is an address and nothing else. -/
def read? (text : Text) : Option Ipv4 :=
  match readStart text with
  | some (address, []) => some address
  | _ => none

example : read? "01.2.3.4".toList = none := by decide +kernel

end Ipv4

end StubDns
