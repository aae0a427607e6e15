import StubDns.Toml.Value

/-! # Settings

Settings form a tree of tables, arrays and plain values. Each node may know
the file that it was written in; nodes that were made on the way to another
one, and defaults, know none.

The entries of a table are kept in the order of their keys, so that equal
settings are equal trees whatever the order in which they were made.
-/

namespace StubDns

/-- The name of the file that a setting was written in, if there is one. -/
abbrev Origin := Option Text

/-- A setting without parts. `null` is the absence of a value. -/
inductive Plain
  | null
  | boolean (value : Bool)
  | integer (value : Int)
  | float (value : Binary64)
  | string (text : Text)
  deriving DecidableEq, Repr

mutual
inductive Setting where
  | plain (origin : Origin) (value : Plain)
  | array (origin : Origin) (items : SettingList)
  | table (origin : Origin) (entries : SettingTable)

inductive SettingList where
  | nil
  | cons (head : Setting) (tail : SettingList)

inductive SettingTable where
  | nil
  | cons (key : Text) (value : Setting) (rest : SettingTable)
end

deriving instance DecidableEq for Setting
deriving instance DecidableEq for SettingList
deriving instance DecidableEq for SettingTable
deriving instance Repr for Setting
deriving instance Repr for SettingList
deriving instance Repr for SettingTable

namespace SettingTable

def find? (key : Text) : SettingTable → Option Setting
  | .nil => none
  | .cons other value rest => if other = key then some value else rest.find? key

/-- Give a key a value, at the place of the key in the order. -/
def insert (key : Text) (value : Setting) : SettingTable → SettingTable
  | .nil => .cons key value .nil
  | .cons other old rest =>
      if other = key then .cons key value rest
      else if key < other then .cons key value (.cons other old rest)
      else .cons other old (rest.insert key value)

/-- Giving a key a value changes the value of that key and of no other. -/
theorem find?_insert (key other : Text) (value : Setting) :
    (entries : SettingTable) → (entries.insert key value).find? other =
      if key = other then some value else entries.find? other
  | .nil => rfl
  | .cons first old rest => by
      rw [insert]
      split
      · next present => by_cases equal : key = other <;> simp [find?, present, equal]
      · next absent =>
          split
          · simp [find?]
          · by_cases here : first = other
            · simp [find?, here, show key ≠ other from fun equal => absent (here.trans equal.symm)]
            · simp [find?, here, find?_insert key other value rest]

/-- The entries in the order of their keys. -/
def toList : SettingTable → List (Text × Setting)
  | .nil => []
  | .cons key value rest => (key, value) :: rest.toList

end SettingTable

namespace SettingList

def length : SettingList → Nat
  | .nil => 0
  | .cons _ tail => tail.length + 1

def get? : SettingList → Nat → Option Setting
  | .nil, _ => none
  | .cons head _, 0 => some head
  | .cons _ tail, position + 1 => tail.get? position

def toList : SettingList → List Setting
  | .nil => []
  | .cons head tail => head :: tail.toList

end SettingList

namespace Setting

def null : Setting := .plain none .null

instance : Inhabited Setting := ⟨null⟩

def emptyTable : Setting := .table none .nil

/-- A setting as a table: itself if it is one, and otherwise a new one. -/
def asTable : Setting → Origin × SettingTable
  | .table origin entries => (origin, entries)
  | _ => (none, .nil)

/-- A setting as an array: itself if it is one, and otherwise a new one. -/
def asArray : Setting → Origin × SettingList
  | .array origin items => (origin, items)
  | _ => (none, .nil)

end Setting

/-! ## Settings of a document -/

/-- A value of a document as a plain setting. Dates are strings. -/
def Plain.ofScalar : Toml.Scalar → Plain
  | .string text => .string text
  | .integer value => .integer value
  | .float value => .float value
  | .boolean value => .boolean value
  | .datetime value => .string value.render

mutual
/-- A value of a document as a setting that was written in `origin`. -/
def Setting.ofValue (origin : Origin) : Toml.Value → Setting
  | .scalar value => .plain origin (.ofScalar value)
  | .array items => .array origin (SettingList.ofValues origin items)
  | .table _ entries => .table origin (SettingTable.ofEntries origin entries)
  | .tables elements => .array origin (SettingList.ofValues origin elements)

def SettingList.ofValues (origin : Origin) : Toml.Values → SettingList
  | .nil => .nil
  | .cons head tail => .cons (Setting.ofValue origin head) (SettingList.ofValues origin tail)

def SettingTable.ofEntries (origin : Origin) : Toml.Entries → SettingTable
  | .nil => .nil
  | .cons key value rest =>
      (SettingTable.ofEntries origin rest).insert key (Setting.ofValue origin value)
end

end StubDns
