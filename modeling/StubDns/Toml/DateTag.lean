import StubDns.Toml.Document

/-! # Tagged dates

A table may stand for a date or time: its first key is then the tag, with a
string that is read as the date, and its other keys count for nothing. `value?`
reads a text as a document in which such tables have been replaced. The whole
document may be tagged, so that it need not be a table.
-/

namespace StubDns.Toml

/-- The key that makes a table a date when it comes first. -/
def dateTag : Text := "$__toml_private_datetime".toList

/-- The value of the tag of a table that is tagged. -/
def Entries.tagged? : Entries → Option Value
  | .nil => none
  | .cons key value _ => if key = dateTag then some value else none

/-- The date that the value of a tag gives. Only strings give one. -/
def Value.date? : Value → Option Datetime
  | .scalar (.string text) => Datetime.read? text
  | _ => none

mutual
/-- A value with tagged tables replaced by their dates, unless a tag gives none. -/
def Value.untagged? : Value → Option Value
  | .scalar value => some (.scalar value)
  | .array items => items.untagged?.map .array
  | .tables elements => elements.untagged?.map .tables
  | .table form entries =>
      match entries.tagged? with
      | some value => value.date?.map fun date => .scalar (.datetime date)
      | none => entries.untagged?.map (.table form)

def Values.untagged? : Values → Option Values
  | .nil => some .nil
  | .cons head tail =>
      match head.untagged?, tail.untagged? with
      | some head, some tail => some (.cons head tail)
      | _, _ => none

def Entries.untagged? : Entries → Option Entries
  | .nil => some .nil
  | .cons key value rest =>
      match value.untagged?, rest.untagged? with
      | some value, some rest => some (.cons key value rest)
      | _, _ => none
end

/-- Read a document as a value. -/
def value? (text : Text) : Option Value :=
  (read? text).bind fun entries => (Value.table .opened entries).untagged?

example : value? "a = \x7b'$__toml_private_datetime' = '07:32:00', b = 1\x7d".toList =
    some (.table .opened
      (.cons "a".toList (.scalar (.datetime (.time ⟨7, 32, 0, 0⟩))) .nil)) := by
  decide +kernel

/-- A tag that does not come first is an ordinary key. -/
example : (value? "b = 1\n'$__toml_private_datetime' = 2".toList).isSome := by decide +kernel

end StubDns.Toml
