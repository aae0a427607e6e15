import StubDns.Address.Endpoint
import StubDns.Settings.Error
import StubDns.Text.Lowercase

/-! # Reading settings

Settings are read as values of the types that a configuration wants, with some
goodwill: a number may be given as a fraction, a truth value or a string, and a
string as a number. A record may be given as a table of its fields or as an
array of them in order.
-/

namespace StubDns

abbrev Read (α : Type) := Except SettingsError α

namespace Setting

/-! ## Single values -/

def trueWords : List Text := ["true".toList, "on".toList, "yes".toList]

def falseWords : List Text := ["false".toList, "off".toList, "no".toList]

/-- The number that a word for a truth value stands for. -/
def wordNumber? (word : Text) : Option Nat :=
  if Text.isOneOf trueWords word then some 1
  else if Text.isOneOf falseWords word then some 0
  else none

def whole (setting : Setting) : Read Nat :=
  match setting with
  | .plain _ (.boolean value) => .ok (if value then 1 else 0)
  | .plain origin (.integer value) =>
      if 0 ≤ value then .ok value.toNat
      else .error (.value (.integer value) .whole64 [] origin)
  | .plain _ (.float value) => .ok value.toWhole
  | .plain origin (.string text) =>
      match wordNumber? (Text.lower text), Whole.read Whole.limit64 text with
      | some number, _ => .ok number
      | none, .ok number => .ok number
      | none, .error _ => .error (.value (.string text) .integer [] origin)
  | .plain origin .null => .error (.value .nothing .integer [] origin)
  | .array origin _ => .error (.value .sequence .integer [] origin)
  | .table origin _ => .error (.value .map .integer [] origin)

def whole16 (setting : Setting) : Read UInt16 := do
  let number ← setting.whole
  if number < Whole.limit16 then .ok (UInt16.ofNat number)
  else .error (.value (.whole number) .whole16 [] none)

def whole32 (setting : Setting) : Read UInt32 := do
  let number ← setting.whole
  if number < Whole.limit32 then .ok (UInt32.ofNat number)
  else .error (.value (.whole number) .whole32 [] none)

def optionalWhole64 (setting : Setting) : Read (Option UInt64) :=
  match setting with
  | .plain _ .null => .ok none
  | _ => setting.whole.map fun number => some (UInt64.ofNat number)

def string (setting : Setting) : Read Text :=
  match setting with
  | .plain _ (.string text) => .ok text
  | .plain _ (.boolean value) => .ok (if value then "true" else "false").toList
  | .plain _ (.integer value) =>
      .ok (if value < 0 then '-' :: Whole.render value.natAbs else Whole.render value.toNat)
  | .plain _ (.float value) => .ok value.render
  | .plain origin .null => .error (.value .nothing .string [] origin)
  | .array origin _ => .error (.value .sequence .string [] origin)
  | .table origin _ => .error (.value .map .string [] origin)

def ip (setting : Setting) : Read Ip := do
  let text ← setting.string
  match Ip.read? text with
  | some address => .ok address
  | none => .error .address

def ipv4 (setting : Setting) : Read Ipv4 := do
  let text ← setting.string
  match Ipv4.read? text with
  | some address => .ok address
  | none => .error .ipv4Address

end Setting

/-! ## Fields of records -/

namespace SettingTable

/-- Read the value of a key, if the key is there. -/
def field? (entries : SettingTable) (name : String) (read : Setting → Read α) :
    Read (Option α) :=
  match entries.find? name.toList with
  | none => .ok none
  | some setting => ((read setting).mapError (·.atKey name.toList)).map some

end SettingTable

namespace SettingList

/-- Read the item at a position, if there is one. -/
def field? (items : SettingList) (position : Nat) (read : Setting → Read α) :
    Read (Option α) :=
  match items.get? position with
  | none => .ok none
  | some setting => ((read setting).mapError (·.atPosition position)).map some

end SettingList

/-- The value of a field that must be there. -/
def required (field : String) : Option α → Read α
  | some value => .ok value
  | none => .error (.missing field)

/-- A record type as settings give it. -/
structure Record where
  name : String
  fields : Nat
  deriving DecidableEq, Repr

namespace Record

/-- The value of an item that must be there. -/
def requiredItem (record : Record) (position : Nat) : Option α → Read α
  | some value => .ok value
  | none => .error (.length position record.name record.fields)

/-- Read a record from the table or the array that gives it. -/
def read (record : Record) (ofTable : SettingTable → Read α) (ofList : SettingList → Read α)
    (setting : Setting) : Read α :=
  match setting with
  | .table _ entries => ofTable entries
  | .array _ items => ofList items
  | .plain .. => .error (.parts setting (.record record.name))

end Record

end StubDns
