import StubDns.Settings.Path
import StubDns.Settings.Tree
import StubDns.Text.Lowercase

/-! # Layers of settings

Settings are laid over others. A key is looked for in small letters. Where a
table meets a place, its entries are laid over what is there one by one, so
that an empty table changes nothing; any other setting replaces what is there.

The keys at the top of a layer are paths, as far as they read as one. What lies
on the way to the end of a path is made: tables behind keys, and arrays before
positions, filled up with nothing.

Nothing fixes the order in which the entries of a table are laid; here it is the
order of their keys. Only where keys meet, in small letters or as paths, can
this be seen: the last value counts.
-/

namespace StubDns

namespace Setting

/-! ## Laying one setting over another -/

mutual
/-- Lay a setting over a place. -/
def overlay (below : Option Setting) : Setting → Setting
  | .plain origin value => .plain origin value
  | .array origin items => .array origin items
  | .table _ entries => overlayEntries (below.getD emptyTable) entries

/-- Lay entries over a setting one by one. -/
def overlayEntries (below : Setting) : SettingTable → Setting
  | .nil => below
  | .cons key value rest =>
      let (origin, entries) := below.asTable
      let small := Text.lower key
      overlayEntries (.table origin (entries.insert small (overlay (entries.find? small) value))) rest
end

end Setting

namespace SettingList

/-- Fill up with nothing to at least `size` items. -/
def padded : (size : Nat) → SettingList → SettingList
  | 0, items => items
  | size + 1, .nil => .cons .null (padded size .nil)
  | size + 1, .cons head tail => .cons head (padded size tail)

def changeAt (act : Setting → Setting) : Nat → SettingList → SettingList
  | _, .nil => .nil
  | 0, .cons head tail => .cons (act head) tail
  | position + 1, .cons head tail => .cons head (changeAt act position tail)

/-- The place that an index means. Negative ones count from the end. -/
def placeOf (items : SettingList) (index : Int) : Nat :=
  if 0 ≤ index then index.toNat else items.length - index.natAbs

end SettingList

namespace Setting

/-! ## Following a path -/

/-- Change the item at an index of an array, making the array and the item if
they are not there. -/
def changeItem (index : Int) (act : Setting → Setting) (below : Setting) : Setting :=
  let (origin, items) := below.asArray
  let place := items.placeOf index
  .array origin ((items.padded (place + 1)).changeAt act place)

/-- Change the value of a key of a table, making the table and an absent value
if they are not there. -/
def changeKey (key : Text) (act : Setting → Setting) (below : Setting) : Setting :=
  let (origin, entries) := below.asTable
  let small := Text.lower key
  .table origin (entries.insert small (act ((entries.find? small).getD .null)))

/-- Put a setting at the end of a path, making what is missing on the way. -/
def place (value : Setting) : List Step → Setting → Setting
  | [], _ => value
  | [.key key], below =>
      let (origin, entries) := below.asTable
      overlayEntries (.table origin entries) (.cons key value .nil)
  | [.position index], below => below.changeItem index fun _ => value
  | .key key :: step :: steps, below => below.changeKey key (place value (step :: steps))
  | .position index :: step :: steps, below =>
      below.changeItem index (place value (step :: steps))

/-- The steps that a key at the top of a layer means. -/
def stepsOf (key : Text) : List Step :=
  match Path.read key with
  | .ok path => .key path.root :: path.steps
  | .error _ => [.key key]

/-- Lay the entries of a layer over settings. -/
def layer (below : Setting) : SettingTable → Setting
  | .nil => below
  | .cons key value rest => layer (place value (stepsOf key) below) rest

end Setting

/-! ## Defaults under a file -/

/-- A value that holds where no file says otherwise. -/
structure Default where
  path : Path
  value : Setting
  deriving DecidableEq, Repr

namespace Default

def make (path : Text) (value : Setting) : Except PathError Default :=
  (Path.read path).map fun path => ⟨path, value⟩

/-- Add a default. The last value of a path counts. -/
def add (defaults : List Default) (default : Default) : List Default :=
  defaults.filter (fun other => other.path != default.path) ++ [default]

def settings (defaults : List Default) : Setting :=
  (defaults.foldl add []).foldl
    (fun below default =>
      Setting.place default.value (.key default.path.root :: default.path.steps) below)
    .emptyTable

end Default

namespace Setting

def ofDocument (document : SettingTable) : Setting := layer .emptyTable document

/-- The document laid over the defaults. -/
def merged (defaults : List Default) (document : SettingTable) : Setting :=
  layer (Default.settings defaults) (ofDocument document).asTable.2

end Setting

end StubDns
