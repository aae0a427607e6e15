import StubDns.Files
import StubDns.Settings.Layers
import StubDns.Settings.Reading
import StubDns.Text.Utf8
import StubDns.Toml.DateTag

/-! # Loading settings

Settings are loaded from a file over defaults. A file that is not there, or
that is no text, says nothing and is no error; a text that is no document is
one.
-/

namespace StubDns.Config

/-- The settings at the root of a file, which must be a table. -/
def rootTable (file : Text) : Setting → Read SettingTable
  | .table _ entries => .ok entries
  | other => .error (.root other file)

/-- The settings that a file says, keys as they are spelled. -/
def document (files : Files) (path : Text) : Read SettingTable :=
  match files.find? path with
  | none => .ok .nil
  | some found =>
      match Utf8.decode? found.bytes with
      | none => .ok .nil
      | some text =>
          match Toml.value? text with
          | none => .error .document
          | some value => rootTable found.name (Setting.ofValue (some found.name) value)

/-- The settings of a file over defaults. -/
def settings (defaults : List Default) (files : Files) (path : Text) : Read Setting :=
  (document files path).map (Setting.merged defaults)

/-- A default with a path of two keys. -/
def sectionDefault (group key : String) (value : Plain) : Default where
  path := ⟨group.toList, [.key key.toList]⟩
  value := .plain none value

/-- A default at the root of the settings. -/
def rootDefault (key : String) (value : Plain) : Default where
  path := ⟨key.toList, []⟩
  value := .plain none value

/-- The address that client and server use unless told otherwise. -/
def defaultIp : Text := "127.0.0.1".toList

/-- The port that client and server use unless told otherwise. -/
def defaultPort : Int := 2053

end StubDns.Config
