import StubDns.Number.Shortest
import StubDns.Number.Whole
import StubDns.Settings.Path
import StubDns.Settings.Tree
import StubDns.Text.Quoted

/-! # Errors of settings

Everything that can be wrong with settings, by cause. A value that does not
suit its reader is reported with the path to it and, if it is known, the file
that it was written in.
-/

namespace StubDns

/-- A single value that did not suit. -/
inductive Found
  | nothing
  | integer (value : Int)
  | whole (value : Nat)
  | string (text : Text)
  | sequence
  | map
  deriving DecidableEq, Repr

/-- What a reader of a single value asks for. -/
inductive Wanted
  | integer
  | whole64
  | whole32
  | whole16
  | string
  deriving DecidableEq, Repr

/-- What a reader of several values asks for. -/
inductive WantedParts
  | map
  | record (name : String)
  deriving DecidableEq, Repr

inductive SettingsError
  /-- The path of a default is none. -/
  | path (error : PathError)
  /-- The file is no document. -/
  | document
  /-- The file is a document, but at its root is no table. -/
  | root (found : Setting) (file : Text)
  /-- A single value does not suit. -/
  | value (found : Found) (wanted : Wanted) (key : Text) (origin : Origin)
  /-- A setting has no parts of the kind that is asked for. -/
  | parts (found : Setting) (wanted : WantedParts)
  /-- A sequence ends before the fields of a record. -/
  | length (found : Nat) (record : String) (fields : Nat)
  /-- A field of a record is not there. -/
  | missing (field : String)
  /-- A string is no address. -/
  | address
  /-- A string is no IPv4 address. -/
  | ipv4Address
  deriving DecidableEq, Repr

/-! ## Reports -/

def Found.message : Found → String
  | .nothing => "unit value"
  | .integer value => s!"64-bit integer `{value}`"
  | .whole value => s!"64-bit unsigned integer `{value}`"
  | .string text => "string " ++ String.ofList (Text.quoted text)
  | .sequence => "sequence"
  | .map => "map"

def Wanted.message : Wanted → String
  | .integer => "an integer"
  | .whole64 => "an unsigned 64 bit or less integer"
  | .whole32 => "an unsigned 32 bit integer"
  | .whole16 => "an unsigned 16 bit integer"
  | .string => "a string"

def WantedParts.message : WantedParts → String
  | .map => "a map"
  | .record name => "struct " ++ name

/-- The text of a double with at least one decimal place. -/
def withPoint (value : Binary64) : Text :=
  let text := value.render
  match value.meaning with
  | .finite .. => if text.contains '.' then text else text ++ ['.', '0']
  | _ => text

/-- A setting as it is called when its parts are asked for. -/
def Setting.message : Setting → String
  | .plain _ .null => "unit value"
  | .plain _ (.boolean value) => s!"boolean `{value}`"
  | .plain _ (.integer value) => s!"integer `{value}`"
  | .plain _ (.float value) => "floating point `" ++ String.ofList (withPoint value) ++ "`"
  | .plain _ (.string text) => "string " ++ String.ofList (Text.quoted text)
  | .array .. => "sequence"
  | .table .. => "map"

def elements (count : Nat) : String :=
  if count = 1 then "1 element" else s!"{count} elements"

namespace SettingsError

/-- The report for a person. The wording of a malformed document is not fixed. -/
def message : SettingsError → String
  | .path error => error.message
  | .document => "TOML parse error"
  | .root found file =>
      let place := " in " ++ String.ofList file
      "invalid type: " ++ found.message ++ ", expected " ++ WantedParts.map.message ++ place ++ place
  | .value found wanted key origin =>
      let file := match origin with
        | some name => " in " ++ String.ofList name
        | none => ""
      "invalid type: " ++ found.message ++ ", expected " ++ wanted.message ++ " for key `"
        ++ String.ofList key ++ "`" ++ file
  | .parts found wanted => "invalid type: " ++ found.message ++ ", expected " ++ wanted.message
  | .length found record fields =>
      s!"invalid length {found}, expected struct " ++ record ++ " with " ++ elements fields
  | .missing field => "missing field `" ++ field ++ "`"
  | .address => "invalid IP address syntax"
  | .ipv4Address => "invalid IPv4 address syntax"

/-! ## Where an error is -/

/-- Put the name of a table's key in front of the path to a value. A position
follows without a dot. -/
def behindKey (name key : Text) : Text :=
  match key with
  | [] => name
  | '[' :: _ => name ++ key
  | _ => name ++ '.' :: key

/-- The error of the value of a key, seen from the table. -/
def atKey (name : Text) : SettingsError → SettingsError
  | .value found wanted key origin => .value found wanted (behindKey name key) origin
  | error => error

/-- The error of an item, seen from the array. -/
def atPosition (position : Nat) : SettingsError → SettingsError
  | .value found wanted key origin =>
      .value found wanted ('[' :: Whole.render position ++ ']' :: key) origin
  | error => error

end SettingsError

end StubDns
