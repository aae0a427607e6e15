import StubDns.Text.Utf8

/-! # Files of a directory

The files under the directory that a program runs in, and the rule by which it
finds a file that was named without its ending: the name as it stands comes
first, then the name with `.toml` behind it. A path that is too long for the
system names nothing, wherever it would lead.
-/

namespace StubDns

/-- What a name stands for. -/
inductive FileNode
  | file (bytes : List UInt8)
  | folder
  deriving DecidableEq, Repr

/-- Names below the directory, each with what it stands for. Folders on the way
to a name need no mention. -/
abbrev Files := List (List Text × FileNode)

namespace Files

/-! ## Names -/

/-- The parts of a path that lead somewhere. -/
def steps (parts : List Text) : List Text := parts.filter fun part => part != [] && part != ['.']

/-- The parts of a path. A path from the root of all files starts with an empty
part. -/
def segments (path : Text) : List Text :=
  match path with
  | '/' :: rest => [] :: steps (Text.cut '/' rest)
  | _ => steps (Text.cut '/' path)

/-- The step to the folder above. -/
def parent : Text := ['.', '.']

/-- A path ends in a part that can only be a folder. -/
def endsInFolder (path : Text) : Bool :=
  match (Text.cut '/' path).getLast? with
  | none => true
  | some part => part = [] || part = ['.'] || part = parent

/-- A path up to the end of the last part that leads somewhere. -/
def trimmed (path : Text) : Text :=
  Text.join '/'
    (((Text.cut '/' path).reverse.dropWhile fun part => part = [] || part = ['.']).reverse)

example : trimmed "./sub//c/.//".toList = "./sub//c".toList := by decide

/-- The most bytes of a path. The system takes 4096 bytes from the root of all
files on, and 32 of them are kept for the directory and for the end mark. -/
def pathLimit : Nat := 4064

/-- The system takes a path of this length. Parts that lead nowhere count. -/
def fits (path : Text) : Bool := (Utf8.encode path).length ≤ pathLimit

/-! ## Looking up -/

/-- The directory itself, a folder, or a folder on the way to something. -/
def isFolder (files : Files) (location : List Text) : Bool :=
  location = [] || files.any fun entry =>
    (entry.1 = location && entry.2 = .folder)
      || (location.isPrefixOf entry.1 && entry.1 != location)

def bytes? (files : Files) (location : List Text) : Option (List UInt8) :=
  match files.find? fun entry => entry.1 = location with
  | some (_, .file bytes) => some bytes
  | _ => none

/-- The location that a part of a path leads to. Locations above the directory
start with steps up. -/
def move (location : List Text) (part : Text) : List Text :=
  if part = parent ∧ location ≠ [] ∧ location.getLast? ≠ some parent then location.dropLast
  else location ++ [part]

/-- Follow the parts of a path from a location, which must be a folder as long
as parts are left. -/
def follow (files : Files) (location : List Text) : List Text → Option (List Text)
  | [] => some location
  | part :: parts =>
      if files.isFolder location then files.follow (move location part) parts else none

/-- A file that was found: its path without detours through the same folder,
and its bytes. -/
structure Found where
  name : Text
  bytes : List UInt8
  deriving DecidableEq, Repr

/-- The file at the end of some parts. -/
def at? (files : Files) (parts : List Text) : Option Found := do
  let location ← files.follow [] parts
  let bytes ← files.bytes? location
  return ⟨Text.join '/' parts, bytes⟩

/-- The file that a path names as it stands. -/
def named? (files : Files) (path : Text) : Option Found :=
  if fits path && !endsInFolder path then files.at? (segments path) else none

/-- The file that a path names once `.toml` is put behind its last part that
leads somewhere. What stood behind that part no longer counts. -/
def extended? (files : Files) (path : Text) : Option Found :=
  match (segments path).getLast? with
  | none => none
  | some last =>
      if last = parent ∨ last = [] ∨ ¬ fits (trimmed path ++ ".toml".toList) then none
      else files.at? ((segments path).dropLast ++ [last ++ ".toml".toList])

/-- The file that a path means. -/
def find? (files : Files) (path : Text) : Option Found :=
  (files.named? path).or (files.extended? path)

/-- A folder is no file, but a file may be named after it. -/
example :
    (find? [(["sub".toList], .folder), (["sub.toml".toList], .file [1])] "sub/".toList) =
      some ⟨"sub.toml".toList, [1]⟩ := by decide +kernel

end Files

end StubDns
