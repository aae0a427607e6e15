import StubDns.Address.Ipv4
import StubDns.Text.Basic

/-! # IPv6 addresses

Eight groups of sixteen bits in base sixteen. In writing, the longest run of
two or more zero groups, the first of equals, is left out between two colons,
and an address that embeds an IPv4 address is written with it. Reading takes
one such gap, and an IPv4 address in the place of the last two groups.
-/

namespace StubDns

structure Ipv6 where
  groups : Vector UInt16 8
  deriving DecidableEq, Repr

namespace Ipv6

/-! ## Writing -/

/-- A group without leading zeros. -/
def renderGroup (group : UInt16) : Text := Nat.toDigits 16 group.toNat

def renderGroups (groups : List UInt16) : Text := Text.join ':' (groups.map renderGroup)

/-- The number of zero groups at the start. -/
def zerosAtStart (groups : List UInt16) : Nat := (groups.takeWhile (· = 0)).length

/-- Start and length of the longest run of zero groups, the first of equals.
`position` is where `groups` starts. -/
def longestZeros (position : Nat) : List UInt16 → Nat × Nat
  | [] => (position, 0)
  | group :: rest =>
      let here := zerosAtStart (group :: rest)
      let later := longestZeros (position + 1) rest
      if later.2 ≤ here then (position, here) else later

/-- The IPv4 address that an address embeds. -/
def embedded? (address : Ipv6) : Option Ipv4 :=
  match address.groups.toList with
  | [0, 0, 0, 0, 0, 0xFFFF, high, low] =>
      some ⟨(high >>> 8).toUInt8, high.toUInt8, (low >>> 8).toUInt8, low.toUInt8⟩
  | _ => none

/-- The shortest customary text of an address. -/
def render (address : Ipv6) : Text :=
  match address.embedded? with
  | some ipv4 => "::ffff:".toList ++ ipv4.render
  | none =>
      let groups := address.groups.toList
      let (start, length) := longestZeros 0 groups
      if 1 < length then
        renderGroups (groups.take start) ++ ':' :: ':' :: renderGroups (groups.drop (start + length))
      else
        renderGroups groups

/-- A single zero group is written. -/
example : render ⟨#v[1, 0, 2, 3, 4, 5, 6, 7]⟩ = "1:0:2:3:4:5:6:7".toList := by decide +kernel

/-! ## Kinds of addresses -/

/-- The address that stands for any address or for none. -/
def isUnspecified (address : Ipv6) : Bool := address.groups.toList.all (· = 0)

/-- The address of a group of machines: `ff00::/8`. -/
def isMulticast (address : Ipv6) : Bool := address.groups[0] / 0x100 = 0xFF

/-- The address means something on one link only, so that it needs a zone:
`fe80::/10`, or a group of a machine or of a link. -/
def needsZone (address : Ipv6) : Bool :=
  address.groups[0] / 0x40 = 0x3FA
    || (address.isMulticast && (address.groups[0] % 0x10 = 1 || address.groups[0] % 0x10 = 2))

/-! ## Reading -/

/-- The value of a digit in base sixteen, of either letter case. -/
def hexDigit? (char : Char) : Option Nat :=
  if '0' ≤ char ∧ char ≤ '9' then some (char.toNat - '0'.toNat)
  else if 'a' ≤ char ∧ char ≤ 'f' then some (char.toNat - 'a'.toNat + 10)
  else if 'A' ≤ char ∧ char ≤ 'F' then some (char.toNat - 'A'.toNat + 10)
  else none

/-- Read the group that a text starts with: one to four digits. -/
def readGroup (text : Text) : Option (UInt16 × Text) :=
  let digits := text.takeWhile fun char => (hexDigit? char).isSome
  let rest := text.dropWhile fun char => (hexDigit? char).isSome
  if digits.length = 0 ∨ 4 < digits.length then
    none
  else
    let value := (digits.filterMap hexDigit?).foldl (fun value digit => value * 16 + digit) 0
    some (UInt16.ofNat value, rest)

/-- The rest of the text after the colon in front of a group; the first group
has none. -/
def afterColon (first : Bool) (text : Text) : Option Text :=
  if first then some text
  else
    match text with
    | ':' :: rest => some rest
    | _ => none

/-- What a text yields of groups: those read, whether the last two were an IPv4
address, and the rest. -/
structure Groups where
  groups : List UInt16
  endsInIpv4 : Bool
  rest : Text

def groupsOfIpv4 (address : Ipv4) : List UInt16 :=
  [address.first.toUInt16 * 256 + address.second.toUInt16,
    address.third.toUInt16 * 256 + address.fourth.toUInt16]

/-- Read up to `room` groups. An IPv4 address ends them and needs room for two. -/
def readGroups (first : Bool) : Nat → Text → Groups
  | 0, text => ⟨[], false, text⟩
  | room + 1, text =>
      let ipv4 := if 0 < room then (afterColon first text).bind Ipv4.readStart else none
      match ipv4 with
      | some (address, rest) => ⟨groupsOfIpv4 address, true, rest⟩
      | none =>
          match (afterColon first text).bind readGroup with
          | none => ⟨[], false, text⟩
          | some (group, rest) =>
              let more := readGroups false room rest
              { more with groups := group :: more.groups }

/-- The address of eight groups. -/
def ofGroups? (groups : List UInt16) : Option Ipv6 :=
  if size : groups.length = 8 then some ⟨⟨groups.toArray, by simpa using size⟩⟩ else none

/-- Read a text that is an address and nothing else. A gap stands for at least
one group. -/
def read? (text : Text) : Option Ipv6 :=
  let front := readGroups true 8 text
  if front.groups.length = 8 then
    if front.rest = [] then ofGroups? front.groups else none
  else if front.endsInIpv4 then
    none
  else
    match front.rest with
    | ':' :: ':' :: rest =>
        let back := readGroups true (7 - front.groups.length) rest
        let gap := List.replicate (8 - front.groups.length - back.groups.length) 0
        if back.rest = [] then ofGroups? (front.groups ++ gap ++ back.groups) else none
    | _ => none

example : (read? "::ffff:1.2.3.4".toList).map render = some "::ffff:1.2.3.4".toList := by
  decide +kernel

example : read? "1::2::3".toList = none := by decide +kernel

end Ipv6

end StubDns
