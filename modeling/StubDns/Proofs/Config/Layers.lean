import StubDns.Proofs.Config.Records
import StubDns.Proofs.Settings.OwnValues

/-! # Documents over defaults

A configuration has a few places. What the settings hold at each of them is the document's own
value, or else the default, whatever the document has at the other places or elsewhere; and
this is all that the configuration is read from.
-/

namespace StubDns

namespace Toml.Entries

/-- Nothing in a document stands in the way of some places. -/
structure Unblocked (places : List Text → Prop) (entries : Entries) : Prop where
  noPaths : Setting.NoPaths entries.keys
  clear : ∀ place, places place → entries.Clear place

theorem gives_spelled? {entries : Entries} {name : String} {place : List Text}
    (noPaths : Setting.NoPaths entries.keys) (clear : entries.Clear (name.toList :: place)) :
    entries.Gives name (entries.spelled? name.toList) :=
  ⟨has_spelled? name.toList (clear_cons_iff.mp clear).1, noPaths.alone name.toList⟩

theorem Clear.eq_table {entries : Entries} {name next : Text} {place : List Text}
    (clear : entries.Clear (name :: next :: place)) :
    ∀ given ∈ entries.spelled? name, ∃ form inner, given = .table form inner := by
  intro given own
  rcases ((clear_cons_iff.mp clear).2 given own).exists_table with ⟨form, inner, equal, _⟩
  exact ⟨form, inner, equal⟩

end Toml.Entries

open Toml (Entries)

theorem Laid.exists_table {laid : SettingTable} {name : String} {belowOrigin origin : Origin}
    {below : SettingTable} {value : Option Toml.Value}
    (isLaid : Laid laid name (some (.table belowOrigin below)) origin value)
    (isTable : ∀ given ∈ value, ∃ form inner, given = .table form inner) :
    ∃ inner, laid.find? name.toList = some (.table belowOrigin inner) := by
  cases value with
  | none => exact ⟨below, isLaid⟩
  | some given =>
      rcases isTable given rfl with ⟨form, entries, rfl⟩
      rcases isLaid.find?_table rfl with ⟨inner, found, _⟩
      exact ⟨inner, found⟩

namespace Config

/-! ## Fields -/

/-- What a field holds: what is read of an own value if there is one, and otherwise what is
usual. -/
def Taken (read : Setting → Read α) (origin : Origin) (own : Option Toml.Value)
    (usual result : α) : Prop :=
  match own with
  | some value => read (.ofValue origin value) = .ok result
  | none => result = usual

section Fields

variable {laid : SettingTable} {name : String} {origin : Origin} {own : Option Toml.Value}

theorem reads_iff_taken {default : Setting}
    (found : laid.find? name.toList = (own.map (.ofValue origin)).or (some default))
    {read : Setting → Read α} {usual : α} (readsDefault : read default = .ok usual) {result : α} :
    laid.Reads name read result ↔ Taken read origin own usual result := by
  cases own with
  | none => rw [SettingTable.reads_iff_of_find? found, readsDefault, Except.ok.injEq, eq_comm, Taken]
  | some value => rw [SettingTable.reads_iff_of_find? found, Taken]

theorem field?_iff_taken (found : laid.find? name.toList = own.map (.ofValue origin))
    {read : Setting → Read (Option α)} {result : Option α} :
    (∃ given, laid.field? name read = .ok given ∧ given.join = result) ↔
      Taken read origin own none result := by
  cases own with
  | some value => exact SettingTable.exists_field?_join_iff found
  | none =>
      rw [SettingTable.field?_of_none read found, Taken]
      constructor
      · rintro ⟨_, equal, rfl⟩
        cases equal
        rfl
      · rintro rfl
        exact ⟨none, rfl, rfl⟩

end Fields

/-- A place in a section of the settings. -/
def placeIn (group key : String) : List Text := [group.toList, key.toList]

theorem find?_of_under? {tree : Setting} {group : String} {origin : Origin} {inner : SettingTable}
    (found : tree.under? group.toList = some (.table origin inner)) (key : String) :
    inner.find? key.toList = tree.at? (placeIn group key) := by
  rw [placeIn, Setting.at?_cons, found]
  exact (Setting.at?_singleton (.table origin inner) key.toList).symm

theorem at?_merged_of_unblocked {places : List Text → Prop} {entries : Entries}
    (unblocked : entries.Unblocked places) (defaults : List Default) (origin : Origin)
    {name : Text} {place : List Text} (isPlace : places (name :: place))
    (isName : name.all Text.isPlain = true ∧ '.' ∉ name ∧ '[' ∉ name) :
    (Setting.merged defaults (.ofEntries origin entries)).at? (name :: place) =
      ((entries.at? (name :: place)).map (.ofValue origin)).or
        ((Default.settings defaults).at? (name :: place)) :=
  Setting.at?_merged defaults origin unblocked.noPaths
    (Setting.isName_of_plain isName.1 isName.2) (unblocked.clear _ isPlace)

end Config

/-! ## The client -/

namespace ClientConfig

open Config

/-- The places of a client's configuration. -/
inductive Place : List Text → Prop
  | ip : Place (placeIn "resolver" "ip_address")
  | port : Place (placeIn "resolver" "port")
  | timeout : Place (placeIn "resolver" "timeout_ms")
  | domain : Place (placeIn "query" "domain")

theorem unblocked_iff {entries : Entries} :
    entries.Unblocked Place ↔ Setting.NoPaths entries.keys ∧
      entries.Clear (placeIn "resolver" "ip_address") ∧ entries.Clear (placeIn "resolver" "port") ∧
      entries.Clear (placeIn "resolver" "timeout_ms") ∧ entries.Clear (placeIn "query" "domain") := by
  constructor
  · intro unblocked
    exact ⟨unblocked.noPaths, unblocked.clear _ .ip, unblocked.clear _ .port,
      unblocked.clear _ .timeout, unblocked.clear _ .domain⟩
  · rintro ⟨noPaths, ip, port, timeout, domain⟩
    refine ⟨noPaths, ?_⟩
    intro place isPlace
    cases isPlace with
    | ip => exact ip
    | port => exact port
    | timeout => exact timeout
    | domain => exact domain

instance (entries : Entries) : Decidable (entries.Unblocked Place) :=
  decidable_of_iff _ unblocked_iff.symm

/-- The settings hold a document's own value at each place, and otherwise the default. -/
structure Layered (origin : Origin) (entries : Entries) (tree : Setting) : Prop where
  ip : tree.at? (placeIn "resolver" "ip_address") =
    ((entries.at? (placeIn "resolver" "ip_address")).map (.ofValue origin)).or
      (some (.plain none (.string "127.0.0.1".toList)))
  port : tree.at? (placeIn "resolver" "port") =
    ((entries.at? (placeIn "resolver" "port")).map (.ofValue origin)).or
      (some (.plain none (.integer 2053)))
  timeout : tree.at? (placeIn "resolver" "timeout_ms") =
    (entries.at? (placeIn "resolver" "timeout_ms")).map (.ofValue origin)
  domain : tree.at? (placeIn "query" "domain") =
    ((entries.at? (placeIn "query" "domain")).map (.ofValue origin)).or
      (some (.plain none (.string "google.com".toList)))

/-- A configuration takes each field from a document, and otherwise from the defaults. -/
structure Takes (origin : Origin) (entries : Entries) (config : ClientConfig) : Prop where
  ip : Taken Setting.ip origin (entries.at? (placeIn "resolver" "ip_address")) .loopback
    config.server.ip
  port : Taken Setting.whole16 origin (entries.at? (placeIn "resolver" "port")) 2053
    config.server.port
  timeout : Taken Setting.optionalWhole64 origin (entries.at? (placeIn "resolver" "timeout_ms"))
    none config.timeout
  domain : Taken Setting.string origin (entries.at? (placeIn "query" "domain"))
    "google.com".toList config.domain

section Unblocked

variable {entries : Entries}

theorem layered_merged (unblocked : entries.Unblocked Place) (origin : Origin) :
    Layered origin entries (Setting.merged defaults (.ofEntries origin entries)) := by
  constructor
  · rw [placeIn, at?_merged_of_unblocked unblocked defaults origin .ip (by decide),
      settings_defaults]
    rfl
  · rw [placeIn, at?_merged_of_unblocked unblocked defaults origin .port (by decide),
      settings_defaults]
    rfl
  · rw [placeIn, at?_merged_of_unblocked unblocked defaults origin .timeout (by decide),
      settings_defaults]
    exact Option.or_none
  · rw [placeIn, at?_merged_of_unblocked unblocked defaults origin .domain (by decide),
      settings_defaults]
    rfl

theorem read_merged_eq_ok_iff (unblocked : entries.Unblocked Place) (origin : Origin)
    {config : ClientConfig} :
    read (Setting.merged defaults (.ofEntries origin entries)) = .ok config ↔
      Takes origin entries config := by
  have resolverClear := unblocked.clear _ .ip
  have queryClear := unblocked.clear _ .domain
  rcases (laid_resolver (Entries.gives_spelled? unblocked.noPaths resolverClear)
    origin).exists_table resolverClear.eq_table with ⟨resolver, resolverFound⟩
  rcases (laid_query (Entries.gives_spelled? unblocked.noPaths queryClear)
    origin).exists_table queryClear.eq_table with ⟨query, queryFound⟩
  have layered := layered_merged unblocked origin
  rw [read_eq_ok, SettingTable.reads_iff_of_find? resolverFound,
    SettingTable.reads_iff_of_find? queryFound]
  change resolverOfTable resolver = _ ∧ queryOfTable query = _ ↔ _
  rw [resolverOfTable_eq_ok, queryOfTable_eq_ok,
    reads_iff_taken ((find?_of_under? resolverFound _).trans layered.ip)
      (rfl : Setting.ip _ = .ok .loopback),
    reads_iff_taken ((find?_of_under? resolverFound _).trans layered.port)
      (rfl : Setting.whole16 _ = .ok 2053),
    field?_iff_taken ((find?_of_under? resolverFound _).trans layered.timeout),
    reads_iff_taken ((find?_of_under? queryFound _).trans layered.domain)
      (rfl : Setting.string _ = .ok "google.com".toList)]
  constructor
  · rintro ⟨⟨ip, port, timeout⟩, domain⟩
    exact ⟨ip, port, timeout, domain⟩
  · rintro ⟨ip, port, timeout, domain⟩
    exact ⟨⟨ip, port, timeout⟩, domain⟩

end Unblocked

end ClientConfig

/-! ## The server -/

namespace ServerConfig

open Config

/-- The place of the record of a name. -/
def recordPlace (name : Text) : List Text := ["records".toList, name]

/-- The places of a server's configuration. -/
inductive Place : List Text → Prop
  | ip : Place (placeIn "server" "ip_address")
  | port : Place (placeIn "server" "port")
  | ttl : Place ["ttl".toList]
  | record (name : Text) : Place (recordPlace name)

/-- The settings hold a document's own value at each place, and otherwise the default. -/
structure Layered (origin : Origin) (entries : Entries) (tree : Setting) : Prop where
  ip : tree.at? (placeIn "server" "ip_address") =
    ((entries.at? (placeIn "server" "ip_address")).map (.ofValue origin)).or
      (some (.plain none (.string "127.0.0.1".toList)))
  port : tree.at? (placeIn "server" "port") =
    ((entries.at? (placeIn "server" "port")).map (.ofValue origin)).or
      (some (.plain none (.integer 2053)))
  ttl : tree.at? ["ttl".toList] =
    ((entries.at? ["ttl".toList]).map (.ofValue origin)).or (some (.plain none (.integer 60)))
  record : ∀ name, tree.at? (recordPlace name) =
    (entries.at? (recordPlace name)).map (.ofValue origin)

/-- A configuration takes each field from a document, and otherwise from the defaults. Its
records are read from a table of all records of the document. -/
structure Takes (origin : Origin) (entries : Entries) (config : ServerConfig) : Prop where
  ip : Taken Setting.ip origin (entries.at? (placeIn "server" "ip_address")) .loopback
    config.listen.ip
  port : Taken Setting.whole16 origin (entries.at? (placeIn "server" "port")) 2053
    config.listen.port
  ttl : Taken Setting.whole32 origin (entries.at? ["ttl".toList]) 60 config.ttl
  records : ∃ table : SettingTable, table.Ordered ∧
    (∀ name, table.find? name = (entries.at? (recordPlace name)).map (.ofValue origin)) ∧
    recordsOfTable table = .ok config.records

section Unblocked

variable {entries : Entries}

theorem layered_merged (unblocked : entries.Unblocked Place) (origin : Origin) :
    Layered origin entries (Setting.merged defaults (.ofEntries origin entries)) := by
  constructor
  · rw [placeIn, at?_merged_of_unblocked unblocked defaults origin .ip (by decide),
      settings_defaults]
    rfl
  · rw [placeIn, at?_merged_of_unblocked unblocked defaults origin .port (by decide),
      settings_defaults]
    rfl
  · rw [at?_merged_of_unblocked unblocked defaults origin .ttl (by decide), settings_defaults]
    rfl
  · intro name
    rw [recordPlace, at?_merged_of_unblocked unblocked defaults origin (.record name) (by decide),
      settings_defaults]
    exact Option.or_none

/-- The records that are read come from an ordered table of all records of the document. -/
theorem exists_records (unblocked : entries.Unblocked Place) (origin : Origin) :
    ∃ table : SettingTable, table.Ordered ∧
      (∀ name, table.find? name = (entries.at? (recordPlace name)).map (.ofValue origin)) ∧
      ∀ book, (∃ records, (Setting.merged defaults (.ofEntries origin entries)).asTable.2.field?
          "records" readRecords = .ok records ∧ records.getD [] = book) ↔
        recordsOfTable table = .ok book := by
  have clear := unblocked.clear _ (.record [])
  have gives : entries.Gives "records" (entries.spelled? "records".toList) :=
    Entries.gives_spelled? unblocked.noPaths clear
  have laid := laid_records gives origin
  cases own : entries.spelled? "records".toList with
  | none =>
      rw [own] at laid
      have noRecords : ∀ name, entries.at? (recordPlace name) = none := by
        intro name
        rw [recordPlace, Entries.at?_cons, own]
        rfl
      refine ⟨.nil, .nil, fun name => by rw [noRecords]; rfl, ?_⟩
      intro book
      rw [SettingTable.field?_of_none readRecords laid, recordsOfTable]
      simp
  | some given =>
      rw [own] at laid
      rcases clear.eq_table given own with ⟨form, records, rfl⟩
      rcases laid.find?_table rfl with ⟨table, found, _⟩
      have holds := (Setting.smallKeys_merged defaults (.ofEntries origin entries)).under? found
      refine ⟨table, holds.ordered_table, ?_, ?_⟩
      · intro name
        rw [← (layered_merged unblocked origin).record name, recordPlace, Setting.at?_cons,
          Setting.under?, found]
        exact (Setting.at?_singleton (.table none table) name).symm
      · intro book
        rw [SettingTable.field?, found]
        simp only [map_eq_ok, mapError_eq_ok, readRecords]
        constructor
        · rintro ⟨_, ⟨records, reads, rfl⟩, rfl⟩
          exact reads
        · intro reads
          exact ⟨_, ⟨book, reads, rfl⟩, rfl⟩

theorem read_merged_eq_ok_iff (unblocked : entries.Unblocked Place) (origin : Origin)
    {config : ServerConfig} :
    read (Setting.merged defaults (.ofEntries origin entries)) = .ok config ↔
      Takes origin entries config := by
  have listenClear := unblocked.clear _ .ip
  rcases (laid_server (Entries.gives_spelled? unblocked.noPaths listenClear)
    origin).exists_table listenClear.eq_table with ⟨listen, listenFound⟩
  rcases exists_records unblocked origin with ⟨table, ordered, records, reads⟩
  have layered := layered_merged unblocked origin
  have ttlFound := (Setting.at?_singleton _ _).symm.trans layered.ttl
  rw [read_eq_ok, SettingTable.reads_iff_of_find? listenFound, reads config.records]
  change listenOfTable listen = _ ∧ _ ↔ _
  rw [listenOfTable_eq_ok,
    reads_iff_taken ((find?_of_under? listenFound _).trans layered.ip)
      (rfl : Setting.ip _ = .ok .loopback),
    reads_iff_taken ((find?_of_under? listenFound _).trans layered.port)
      (rfl : Setting.whole16 _ = .ok 2053),
    reads_iff_taken ttlFound (rfl : Setting.whole32 _ = .ok 60)]
  constructor
  · rintro ⟨⟨ip, port⟩, ttl, booked⟩
    exact ⟨ip, port, ttl, table, ordered, records, booked⟩
  · rintro ⟨ip, port, ttl, other, otherOrdered, otherRecords, booked⟩
    have same : other = table :=
      otherOrdered.ext ordered fun name => (otherRecords name).trans (records name).symm
    rw [same] at booked
    exact ⟨⟨ip, port⟩, ttl, booked⟩

end Unblocked

end ServerConfig

end StubDns
