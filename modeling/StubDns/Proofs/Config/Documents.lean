import StubDns.Config.Client
import StubDns.Config.Server
import StubDns.Proofs.Settings.Fields

/-! # Documents of configurations

A file gives a configuration the values of some names, in sections or at its root, each
under one key in any case. A configuration is loaded just if what stands under its names
then is read; what stands there is the value of the file, or else the default.
-/

namespace StubDns

/-! ## Files and what they give -/

/-- Entries at the root of a document give a name a value, and no other key leads to the
name. -/
def Toml.Entries.Gives (entries : Entries) (name : String) (value : Option Value) : Prop :=
  entries.Has name.toList value ∧ Setting.Alone entries.keys name.toList

instance (entries : Toml.Entries) (name : String) (value : Option Toml.Value) :
    Decidable (entries.Gives name value) :=
  inferInstanceAs (Decidable (_ ∧ _))

namespace Config

/-- A path means a file that is a document with these entries. -/
def Holds (files : Files) (path : Text) (origin : Origin) (entries : Toml.Entries) : Prop :=
  ∃ found text form, files.find? path = some found ∧ Utf8.decode? found.bytes = some text ∧
    Toml.value? text = some (.table form entries) ∧ origin = some found.name

theorem document_of_holds {files : Files} {path : Text} {origin : Origin}
    {entries : Toml.Entries} (holds : Holds files path origin entries) :
    document files path = .ok (.ofEntries origin entries) := by
  rcases holds with ⟨found, text, form, find, decode, value, rfl⟩
  rw [document, find]
  simp only [decode, value, Setting.ofValue, rootTable]

theorem settings_of_holds {files : Files} {path : Text} {origin : Origin}
    {entries : Toml.Entries} (holds : Holds files path origin entries)
    (defaults : List Default) :
    settings defaults files path =
      .ok (Setting.merged defaults (.ofEntries origin entries)) := by
  rw [settings, document_of_holds holds]
  rfl

/-- What a file gives for a name lies over the default of the name. -/
theorem laid_of_gives {defaults : List Default} {name : String} {below : Option Setting}
    (isDefault : (Default.settings defaults).under? name.toList = below)
    (isName : Setting.IsName name.toList) {entries : Toml.Entries} {value : Option Toml.Value}
    (gives : entries.Gives name value) (origin : Origin) :
    Laid (Setting.merged defaults (.ofEntries origin entries)).asTable.2 name below origin value := by
  rw [← isDefault]
  apply Setting.under?_merged defaults (SettingTable.ordered_ofEntries origin entries)
    (SettingTable.has_ofEntries gives.1 origin) isName
  intro key member
  exact gives.2 key ((SettingTable.mem_keys_ofEntries origin key entries).mp member)

/-- The place that client and server use by default. -/
def defaultPlace : SettingTable :=
  .cons "ip_address".toList (.plain none (.string defaultIp))
    (.cons "port".toList (.plain none (.integer defaultPort)) .nil)

end Config

/-! ## The client -/

namespace ClientConfig

open Config

theorem resolverOfTable_eq_ok {entries : SettingTable} {server : Endpoint}
    {timeout : Option UInt64} :
    resolverOfTable entries = .ok (server, timeout) ↔
      entries.Reads "ip_address" Setting.ip server.ip ∧
      entries.Reads "port" Setting.whole16 server.port ∧
      ∃ given, entries.field? "timeout_ms" Setting.optionalWhole64 = .ok given ∧
        given.join = timeout := by
  rw [resolverOfTable]
  simp only [bind_eq_ok, pure_eq_ok, required_eq_ok, Prod.mk.injEq]
  constructor
  · rintro ⟨_, ip, _, port, given, timeout, _, rfl, _, rfl, rfl, rfl⟩
    exact ⟨SettingTable.field?_eq_ok_some.mp ip, SettingTable.field?_eq_ok_some.mp port, given,
      timeout, rfl⟩
  · rintro ⟨ip, port, given, timeout, equal⟩
    exact ⟨_, SettingTable.field?_eq_ok_some.mpr ip, _, SettingTable.field?_eq_ok_some.mpr port,
      given, timeout, _, rfl, _, rfl, rfl, equal⟩

theorem queryOfTable_eq_ok {entries : SettingTable} {domain : Text} :
    queryOfTable entries = .ok domain ↔ entries.Reads "domain" Setting.string domain := by
  rw [queryOfTable]
  simp only [bind_eq_ok, required_eq_ok]
  constructor
  · rintro ⟨_, reads, rfl⟩
    exact SettingTable.field?_eq_ok_some.mp reads
  · intro reads
    exact ⟨_, SettingTable.field?_eq_ok_some.mpr reads, rfl⟩

theorem read_eq_ok {settings : Setting} {config : ClientConfig} :
    read settings = .ok config ↔
      settings.asTable.2.Reads "resolver" readResolver (config.server, config.timeout) ∧
      settings.asTable.2.Reads "query" readQuery config.domain := by
  rw [read]
  simp only [bind_eq_ok, pure_eq_ok, required_eq_ok]
  constructor
  · rintro ⟨_, resolver, _, query, _, rfl, _, rfl, rfl⟩
    exact ⟨SettingTable.field?_eq_ok_some.mp resolver, SettingTable.field?_eq_ok_some.mp query⟩
  · rintro ⟨resolver, query⟩
    exact ⟨_, SettingTable.field?_eq_ok_some.mpr resolver, _,
      SettingTable.field?_eq_ok_some.mpr query, _, rfl, _, rfl, rfl⟩

/-- The section about the question: a table with a domain that is read or with none, or
another value that is read. -/
def QuerySuits (origin : Origin) : Option Toml.Value → Prop :=
  SectionSuits readQuery (fun entries =>
    ∃ domain, entries.Has "domain".toList domain ∧ Suits Setting.string origin domain) origin

/-- A client's file gives these values for the keys of the server to ask; its address and
the section about the question are read. -/
def IsGiven (files : Files) (path : Text) (origin : Origin) (port timeout : Option Toml.Value) :
    Prop :=
  ∃ entries form resolver ip query, Holds files path origin entries ∧
    entries.Gives "resolver" (some (.table form resolver)) ∧
    resolver.Has "ip_address".toList ip ∧ Suits Setting.ip origin ip ∧
    resolver.Has "port".toList port ∧ resolver.Has "timeout_ms".toList timeout ∧
    entries.Gives "query" query ∧ QuerySuits origin query

/-- The question that is asked by default. -/
def defaultQuery : SettingTable :=
  .cons "domain".toList (.plain none (.string defaultDomain)) .nil

theorem settings_defaults :
    Default.settings defaults = .table none
      (.cons "query".toList (.table none defaultQuery)
        (.cons "resolver".toList (.table none defaultPlace) .nil)) := by
  decide +kernel

theorem laid_resolver {entries : Toml.Entries} {value : Option Toml.Value}
    (gives : entries.Gives "resolver" value) (origin : Origin) :
    Laid (Setting.merged defaults (.ofEntries origin entries)).asTable.2 "resolver"
      (some (.table none defaultPlace)) origin value := by
  apply laid_of_gives _ (Setting.isName_of_plain (by decide) (by decide)) gives
  rw [settings_defaults]
  rfl

theorem laid_query {entries : Toml.Entries} {value : Option Toml.Value}
    (gives : entries.Gives "query" value) (origin : Origin) :
    Laid (Setting.merged defaults (.ofEntries origin entries)).asTable.2 "query"
      (some (.table none defaultQuery)) origin value := by
  apply laid_of_gives _ (Setting.isName_of_plain (by decide) (by decide)) gives
  rw [settings_defaults]
  rfl

theorem reads_query {laid : SettingTable} {origin : Origin} {query : Option Toml.Value}
    (isLaid : Laid laid "query" (some (.table none defaultQuery)) origin query)
    (suits : QuerySuits origin query) : ∃ domain, laid.Reads "query" readQuery domain := by
  have usual : readQuery (.table none defaultQuery) = .ok defaultDomain := rfl
  apply isLaid.reads_section suits rfl usual
  rintro entries inner ⟨domain, has, domainSuits⟩ holds
  have domainLaid := holds "domain" domain (Text.lower_of_plain (by decide)) has
  rcases domainLaid.reads_of_suits rejectsTables_string domainSuits rfl rfl with ⟨result, reads⟩
  exact ⟨result, queryOfTable_eq_ok.mpr reads⟩

/-- What is loaded from such a file, by what lies under the two keys that are left open. -/
theorem load_eq_ok_of_isGiven {files : Files} {path : Text} {origin : Origin}
    {port timeout : Option Toml.Value} (given : IsGiven files path origin port timeout) :
    ∃ laid ip domain, Laid laid "port" (some (.plain none (.integer defaultPort))) origin port ∧
      Laid laid "timeout_ms" none origin timeout ∧
      ∀ config, load files path = .ok config ↔
        (config.server.ip = ip ∧ laid.Reads "port" Setting.whole16 config.server.port ∧
          ∃ waits, laid.field? "timeout_ms" Setting.optionalWhole64 = .ok waits ∧
            waits.join = config.timeout) ∧
        config.domain = domain := by
  rcases given with ⟨entries, form, resolver, ip, query, holds, givesResolver, hasIp, ipSuits,
    hasPort, hasTimeout, givesQuery, querySuits⟩
  rcases (laid_resolver givesResolver origin).find?_table rfl with ⟨inner, found, innerLaid⟩
  have ipLaid := innerLaid "ip_address" ip (Text.lower_of_plain (by decide)) hasIp
  have portLaid := innerLaid "port" port (Text.lower_of_plain (by decide)) hasPort
  have timeoutLaid := innerLaid "timeout_ms" timeout (Text.lower_of_plain (by decide)) hasTimeout
  rcases ipLaid.reads_of_suits rejectsTables_ip ipSuits rfl rfl with ⟨address, readsIp⟩
  rcases reads_query (laid_query givesQuery origin) querySuits with ⟨domain, readsQuery⟩
  refine ⟨inner, address, domain, portLaid, timeoutLaid, ?_⟩
  intro config
  rw [load, settings_of_holds holds]
  change read _ = _ ↔ _
  rw [read_eq_ok, SettingTable.reads_iff_of_find? found, readsQuery.iff_eq]
  change resolverOfTable inner = _ ∧ _ ↔ _
  rw [resolverOfTable_eq_ok, readsIp.iff_eq]

end ClientConfig

/-! ## The server -/

namespace ServerConfig

open Config

theorem listenOfTable_eq_ok {entries : SettingTable} {listen : Endpoint} :
    listenOfTable entries = .ok listen ↔
      entries.Reads "ip_address" Setting.ip listen.ip ∧
      entries.Reads "port" Setting.whole16 listen.port := by
  rw [listenOfTable]
  simp only [bind_eq_ok, pure_eq_ok, required_eq_ok]
  constructor
  · rintro ⟨_, ip, _, port, _, rfl, _, rfl, rfl⟩
    exact ⟨SettingTable.field?_eq_ok_some.mp ip, SettingTable.field?_eq_ok_some.mp port⟩
  · rintro ⟨ip, port⟩
    exact ⟨_, SettingTable.field?_eq_ok_some.mpr ip, _, SettingTable.field?_eq_ok_some.mpr port,
      _, rfl, _, rfl, rfl⟩

theorem read_eq_ok {settings : Setting} {config : ServerConfig} :
    read settings = .ok config ↔
      settings.asTable.2.Reads "server" readListen config.listen ∧
      settings.asTable.2.Reads "ttl" Setting.whole32 config.ttl ∧
      ∃ records, settings.asTable.2.field? "records" readRecords = .ok records ∧
        records.getD [] = config.records := by
  rw [read]
  simp only [bind_eq_ok, pure_eq_ok, required_eq_ok]
  constructor
  · rintro ⟨_, listen, _, ttl, records, given, _, rfl, _, rfl, rfl⟩
    exact ⟨SettingTable.field?_eq_ok_some.mp listen, SettingTable.field?_eq_ok_some.mp ttl,
      records, given, rfl⟩
  · rintro ⟨listen, ttl, records, given, equal⟩
    refine ⟨_, SettingTable.field?_eq_ok_some.mpr listen, _,
      SettingTable.field?_eq_ok_some.mpr ttl, records, given, _, rfl, _, rfl, ?_⟩
    rw [equal]

/-! ### Records -/

theorem recordsOfTable_ok_iff :
    (entries : SettingTable) → ((∃ records, recordsOfTable entries = .ok records) ↔
      ∀ entry ∈ entries.toList, ∃ address, entry.2.ipv4 = .ok address)
  | .nil => by simp [recordsOfTable, SettingTable.toList]
  | .cons domain setting rest => by
      simp only [recordsOfTable, bind_eq_ok, pure_eq_ok, mapError_eq_ok, SettingTable.toList,
        List.forall_mem_cons]
      rw [← recordsOfTable_ok_iff rest]
      constructor
      · rintro ⟨_, address, here, others, later, _⟩
        exact ⟨⟨address, here⟩, others, later⟩
      · rintro ⟨⟨address, here⟩, others, later⟩
        exact ⟨_, address, here, others, later, rfl⟩

theorem overlay_of_ipv4 (setting : Setting) (reads : ∃ address, setting.ipv4 = .ok address)
    (below : Option Setting) : Setting.overlay below setting = setting := by
  cases setting with
  | plain => rw [Setting.overlay]
  | array => rw [Setting.overlay]
  | table origin entries =>
      rcases reads with ⟨address, equal⟩
      exact absurd equal (rejectsTables_ipv4 origin entries address)

/-- Laying a table of addresses over nothing leaves a table of addresses. -/
theorem field?_records {laid : SettingTable} {origin : Origin} {records : Option Toml.Value}
    (isLaid : Laid laid "records" none origin records) (suits : Suits readRecords origin records) :
    ∃ result, laid.field? "records" readRecords = .ok result := by
  cases records with
  | none => exact ⟨none, SettingTable.field?_of_none _ isLaid⟩
  | some given =>
      have reads := suits given rfl
      rw [Laid, Option.map_some, Option.map_some] at isLaid
      cases setting : Setting.ofValue origin given with
      | plain => simp [setting, readRecords] at reads
      | array => simp [setting, readRecords] at reads
      | table origin entries =>
          rw [setting] at reads isLaid
          rcases Setting.forall_overlay_table overlay_of_ipv4 origin
            ((recordsOfTable_ok_iff entries).mp reads) with ⟨inner, equal, allRead⟩
          rcases (recordsOfTable_ok_iff inner).mpr allRead with ⟨result, innerReads⟩
          have found : laid.find? "records".toList = some (.table none inner) :=
            isLaid.trans (congrArg some equal)
          exact ⟨some result, SettingTable.field?_eq_ok_some.mpr ⟨_, found, innerReads⟩⟩

/-! ### Files -/

/-- The section about the place to listen: a table whose address and port are read as far as
they are there, or another value that is read. -/
def ListenSuits (origin : Origin) : Option Toml.Value → Prop :=
  SectionSuits readListen (fun entries =>
    ∃ ip port, entries.Has "ip_address".toList ip ∧ Suits Setting.ip origin ip ∧
      entries.Has "port".toList port ∧ Suits Setting.whole16 origin port) origin

/-- A server's file gives these values for the place to listen and the time that answers
hold; its records are read. -/
def IsGiven (files : Files) (path : Text) (origin : Origin) (listen ttl : Option Toml.Value) :
    Prop :=
  ∃ entries records, Holds files path origin entries ∧
    entries.Gives "server" listen ∧ entries.Gives "ttl" ttl ∧
    entries.Gives "records" records ∧ Suits readRecords origin records

theorem settings_defaults :
    Default.settings defaults = .table none
      (.cons "server".toList (.table none defaultPlace)
        (.cons "ttl".toList (.plain none (.integer defaultTtl)) .nil)) := by
  decide +kernel

theorem laid_server {entries : Toml.Entries} {value : Option Toml.Value}
    (gives : entries.Gives "server" value) (origin : Origin) :
    Laid (Setting.merged defaults (.ofEntries origin entries)).asTable.2 "server"
      (some (.table none defaultPlace)) origin value := by
  apply laid_of_gives _ (Setting.isName_of_plain (by decide) (by decide)) gives
  rw [settings_defaults]
  rfl

theorem laid_ttl {entries : Toml.Entries} {value : Option Toml.Value}
    (gives : entries.Gives "ttl" value) (origin : Origin) :
    Laid (Setting.merged defaults (.ofEntries origin entries)).asTable.2 "ttl"
      (some (.plain none (.integer defaultTtl))) origin value := by
  apply laid_of_gives _ (Setting.isName_of_plain (by decide) (by decide)) gives
  rw [settings_defaults]
  rfl

theorem laid_records {entries : Toml.Entries} {value : Option Toml.Value}
    (gives : entries.Gives "records" value) (origin : Origin) :
    Laid (Setting.merged defaults (.ofEntries origin entries)).asTable.2 "records"
      none origin value := by
  apply laid_of_gives _ (Setting.isName_of_plain (by decide) (by decide)) gives
  rw [settings_defaults]
  rfl

theorem reads_listen {laid : SettingTable} {origin : Origin} {listen : Option Toml.Value}
    (isLaid : Laid laid "server" (some (.table none defaultPlace)) origin listen)
    (suits : ListenSuits origin listen) : ∃ place, laid.Reads "server" readListen place := by
  have usual : readListen (.table none defaultPlace) = .ok ⟨.loopback, 2053⟩ := rfl
  apply isLaid.reads_section suits rfl usual
  rintro entries inner ⟨ip, port, hasIp, ipSuits, hasPort, portSuits⟩ holds
  have ipLaid := holds "ip_address" ip (Text.lower_of_plain (by decide)) hasIp
  have portLaid := holds "port" port (Text.lower_of_plain (by decide)) hasPort
  rcases ipLaid.reads_of_suits rejectsTables_ip ipSuits rfl rfl with ⟨address, readsIp⟩
  rcases portLaid.reads_of_suits rejectsTables_whole16 portSuits rfl rfl with ⟨number, readsPort⟩
  exact ⟨⟨address, number⟩, listenOfTable_eq_ok.mpr ⟨readsIp, readsPort⟩⟩

/-- What is loaded from such a file, by what lies under the two names that are left open. -/
theorem load_eq_ok_of_isGiven {files : Files} {path : Text} {origin : Origin}
    {listen ttl : Option Toml.Value} (given : IsGiven files path origin listen ttl) :
    ∃ laid records,
      Laid laid "server" (some (.table none defaultPlace)) origin listen ∧
      Laid laid "ttl" (some (.plain none (.integer defaultTtl))) origin ttl ∧
      ∀ config, load files path = .ok config ↔
        laid.Reads "server" readListen config.listen ∧
        laid.Reads "ttl" Setting.whole32 config.ttl ∧ records = config.records := by
  rcases given with ⟨entries, records, holds, givesListen, givesTtl, givesRecords, recordsSuit⟩
  rcases field?_records (laid_records givesRecords origin) recordsSuit with ⟨book, reads⟩
  refine ⟨_, book.getD [], laid_server givesListen origin, laid_ttl givesTtl origin, ?_⟩
  intro config
  rw [load, settings_of_holds holds]
  change read _ = _ ↔ _
  rw [read_eq_ok, reads]
  simp

end ServerConfig

end StubDns
