import StubDns.Number.Binary64
import StubDns.Toml.Datetime
import StubDns.Text.Basic

/-! # Values of a document

A document is a table. Tables remember how they came about, because that
decides how a later line may add to them, and they keep their keys in the order
in which these were written.
-/

namespace StubDns.Toml

inductive Scalar
  | string (text : Text)
  | integer (value : Int)
  | float (value : Binary64)
  | boolean (value : Bool)
  | datetime (value : Datetime)
  deriving DecidableEq, Repr

inductive TableForm
  /-- Written as a value between braces: closed to additions. -/
  | inlined
  /-- Opened by a header of its own. -/
  | opened
  /-- On the way to a table that a header opens. -/
  | implied
  /-- On the way to a value with a dotted key. -/
  | dotted
  deriving DecidableEq, Repr

mutual
inductive Value where
  | scalar (value : Scalar)
  | array (items : Values)
  | table (form : TableForm) (entries : Entries)
  /-- Tables of one name, each opened by a header in double brackets. -/
  | tables (elements : Values)

inductive Values where
  | nil
  | cons (head : Value) (tail : Values)

inductive Entries where
  | nil
  | cons (key : Text) (value : Value) (rest : Entries)
end

deriving instance DecidableEq for Value
deriving instance DecidableEq for Values
deriving instance DecidableEq for Entries
deriving instance Repr for Value
deriving instance Repr for Values
deriving instance Repr for Entries

namespace Values

def append : Values → Values → Values
  | .nil, others => others
  | .cons head tail, others => .cons head (tail.append others)

/-- The values without the last one, and the last one. -/
def splitLast? : Values → Option (Values × Value)
  | .nil => none
  | .cons head tail =>
      match tail.splitLast? with
      | none => some (.nil, head)
      | some (front, last) => some (.cons head front, last)

end Values

namespace Entries

def find? (key : Text) : Entries → Option Value
  | .nil => none
  | .cons other value rest => if other = key then some value else rest.find? key

/-- Give a key a value. A key that is there keeps its place. -/
def insert (key : Text) (value : Value) : Entries → Entries
  | .nil => .cons key value .nil
  | .cons other old rest =>
      if other = key then .cons key value rest else .cons other old (rest.insert key value)

/-- Giving a key a value changes the value of that key and of no other. -/
theorem find?_insert (key other : Text) (value : Value) :
    (entries : Entries) → (entries.insert key value).find? other =
      if key = other then some value else entries.find? other
  | .nil => rfl
  | .cons first old rest => by
      rw [insert]
      split
      · next present => by_cases equal : key = other <;> simp [find?, present, equal]
      · next absent =>
          by_cases here : first = other
          · simp [find?, here, show key ≠ other from fun equal => absent (here.trans equal.symm)]
          · simp [find?, here, find?_insert key other value rest]

def erase (key : Text) : Entries → Entries
  | .nil => .nil
  | .cons other value rest =>
      if other = key then rest else .cons other value (rest.erase key)

/-! ## Adding to tables -/

/-- Whether a line may add to a table of this form. Braces close a table, and a
dotted key adds to no table that a header opened. -/
def admits (dotted : Bool) (form : TableForm) : Bool :=
  form != .inlined && !(dotted && form = .opened)

/-- Change the table at the end of a path. Tables that are missing on the way
are made; of tables in an array the last one is meant. `form` is the form of
the table that the path starts from. -/
def change (dotted : Bool) (act : TableForm → Entries → Option Entries) :
    (path : List Text) → TableForm → Entries → Option Entries
  | [], form, entries => act form entries
  | key :: path, _, entries =>
      match entries.find? key with
      | none => do
          let made := if dotted then .dotted else .implied
          let inner ← change dotted act path made .nil
          return entries.insert key (.table made inner)
      | some (.table form inner) =>
          if admits dotted form then do
            let inner ← change dotted act path form inner
            return entries.insert key (.table form inner)
          else
            none
      | some (.tables elements) =>
          match elements.splitLast? with
          | some (front, .table form inner) => do
              let inner ← change dotted act path form inner
              return entries.insert key (.tables (front.append (.cons (.table form inner) .nil)))
          | _ => none
      | some _ => none

/-- Give a new key a value, behind a path of dotted keys. -/
def assign (path : List Text) (key : Text) (value : Value) (entries : Entries) :
    Option Entries :=
  entries.change true (fun form inner =>
    if path ≠ [] ∧ form ≠ .dotted then none
    else if (inner.find? key).isSome then none
    else some (inner.insert key value)) path .opened

/-- Open the table of a header. Only a table that was implied so far may be
there already; it moves to the place of its header, behind all other keys. -/
def openTable (path : List Text) (key : Text) (entries : Entries) : Option Entries :=
  entries.change false (fun _ inner =>
    match inner.find? key with
    | none => some (inner.insert key (.table .opened .nil))
    | some (.table .implied present) =>
        some ((inner.erase key).insert key (.table .opened present))
    | some _ => none) path .opened

/-- Open a further table of a header in double brackets. -/
def openElement (path : List Text) (key : Text) (entries : Entries) : Option Entries :=
  let fresh := Values.cons (.table .opened .nil) .nil
  entries.change false (fun _ inner =>
    match inner.find? key with
    | none => some (inner.insert key (.tables fresh))
    | some (.tables elements) => some (inner.insert key (.tables (elements.append fresh)))
    | some _ => none) path .opened

/-- Change the table that a header opened last. -/
def changeCurrent (path : List Text) (act : Entries → Option Entries) (entries : Entries) :
    Option Entries :=
  entries.change false (fun _ inner => act inner) path .opened

end Entries

end StubDns.Toml
