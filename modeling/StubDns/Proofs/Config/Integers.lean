import StubDns.Proofs.CommandLine.Flags
import StubDns.Proofs.Config.Documents

/-! # Integers of files

An integer of a file becomes the number that it is, or the file is not loaded. For a port
the flag of the client decides the same.
-/

namespace StubDns

/-! ## Numbers of a fixed size -/

theorem exists_uint16_iff {value : Int} :
    (∃ number : UInt16, (number.toNat : Int) = value) ↔ 0 ≤ value ∧ value ≤ 65535 := by
  constructor
  · rintro ⟨number, rfl⟩
    have bound := number.toNat_lt
    omega
  · rintro ⟨low, high⟩
    refine ⟨.ofNat value.toNat, ?_⟩
    rw [UInt16.toNat_ofNat_of_lt' (by change _ < 2 ^ 16; omega), Int.toNat_of_nonneg low]

theorem exists_uint32_iff {value : Int} :
    (∃ number : UInt32, (number.toNat : Int) = value) ↔ 0 ≤ value ∧ value ≤ 4294967295 := by
  constructor
  · rintro ⟨number, rfl⟩
    have bound := number.toNat_lt
    omega
  · rintro ⟨low, high⟩
    refine ⟨.ofNat value.toNat, ?_⟩
    rw [UInt32.toNat_ofNat_of_lt' (by change _ < 2 ^ 32; omega), Int.toNat_of_nonneg low]

theorem exists_uint64_iff {value : Int} (fits : value < Whole.limit64) :
    (∃ number : UInt64, (number.toNat : Int) = value) ↔ 0 ≤ value := by
  constructor
  · rintro ⟨number, rfl⟩
    omega
  · intro low
    refine ⟨.ofNat value.toNat, ?_⟩
    have small : value.toNat < UInt64.size := (Int.toNat_lt low).mpr fits
    rw [UInt64.toNat_ofNat_of_lt' small, Int.toNat_of_nonneg low]

/-- What is loaded is made of a number, and of each number in question something is. -/
theorem exists_load_iff {load : Read α} {isNumber : ν → Prop} {make : ν → α}
    (loads : ∀ config, load = .ok config ↔ ∃ number, isNumber number ∧ config = make number) :
    (∃ config, load = .ok config) ↔ ∃ number, isNumber number := by
  constructor
  · rintro ⟨config, loaded⟩
    rcases (loads config).mp loaded with ⟨number, holds, _⟩
    exact ⟨number, holds⟩
  · rintro ⟨number, holds⟩
    exact ⟨make number, (loads _).mpr ⟨number, holds, rfl⟩⟩

/-! ## The client -/

namespace ClientConfig

/-- A client's file gives an integer for the port, and its other keys are not there or are
read. -/
def GivesPort (files : Files) (path : Text) (value : Int) : Prop :=
  ∃ origin timeout, IsGiven files path origin (some (.scalar (.integer value))) timeout ∧
    Suits Setting.optionalWhole64 origin timeout

/-- A client's file gives an integer for the timeout, and its other keys are not there or are
read. -/
def GivesTimeout (files : Files) (path : Text) (value : Int) : Prop :=
  ∃ origin port, IsGiven files path origin port (some (.scalar (.integer value))) ∧
    Suits Setting.whole16 origin port

theorem load_eq_ok_of_givesPort {files : Files} {path : Text} {value : Int}
    (gives : GivesPort files path value) :
    ∃ ip timeout domain, ∀ config, load files path = .ok config ↔
      ∃ number : UInt16, (number.toNat : Int) = value ∧ config = ⟨⟨ip, number⟩, timeout, domain⟩ := by
  rcases gives with ⟨origin, timeout, given, suits⟩
  rcases load_eq_ok_of_isGiven given with ⟨laid, ip, domain, portLaid, timeoutLaid, loads⟩
  rcases timeoutLaid.field?_of_suits rejectsTables_optionalWhole64 suits with ⟨waits, reads⟩
  refine ⟨ip, waits.join, domain, ?_⟩
  rintro ⟨⟨address, port⟩, timeout, name⟩
  rw [loads, SettingTable.reads_iff_of_find? portLaid.find?_integer,
    Setting.whole16_integer_eq_ok, reads]
  constructor
  · rintro ⟨⟨rfl, equal, _, same, rfl⟩, rfl⟩
    cases same
    exact ⟨port, equal, rfl⟩
  · rintro ⟨number, equal, same⟩
    cases same
    exact ⟨⟨rfl, equal, _, rfl, rfl⟩, rfl⟩

theorem load_eq_ok_of_givesTimeout {files : Files} {path : Text} {value : Int}
    (fits : value < Whole.limit64) (gives : GivesTimeout files path value) :
    ∃ server domain, ∀ config, load files path = .ok config ↔
      ∃ number : UInt64, (number.toNat : Int) = value ∧ config = ⟨server, some number, domain⟩ := by
  rcases gives with ⟨origin, port, given, suits⟩
  rcases load_eq_ok_of_isGiven given with ⟨laid, ip, domain, portLaid, timeoutLaid, loads⟩
  rcases portLaid.reads_of_suits rejectsTables_whole16 suits rfl rfl with ⟨usual, reads⟩
  refine ⟨⟨ip, usual⟩, domain, ?_⟩
  rintro ⟨⟨address, port⟩, timeout, name⟩
  rw [loads, reads.iff_eq, SettingTable.exists_field?_join_iff timeoutLaid.find?_integer,
    Setting.optionalWhole64_integer_eq_ok fits]
  constructor
  · rintro ⟨⟨rfl, rfl, number, rfl, equal⟩, rfl⟩
    exact ⟨number, equal, rfl⟩
  · rintro ⟨number, equal, same⟩
    cases same
    exact ⟨⟨rfl, rfl, number, rfl, equal⟩, rfl⟩

end ClientConfig

/-! ## The server -/

namespace ServerConfig

/-- A server's file gives an integer for the port, and its other keys are not there or are
read. -/
def GivesPort (files : Files) (path : Text) (value : Int) : Prop :=
  ∃ origin form entries ip ttl, IsGiven files path origin (some (.table form entries)) ttl ∧
    entries.Has "ip_address".toList ip ∧ Suits Setting.ip origin ip ∧
    entries.Has "port".toList (some (.scalar (.integer value))) ∧
    Suits Setting.whole32 origin ttl

/-- A server's file gives an integer for the time that answers hold, and its other keys are
not there or are read. -/
def GivesTtl (files : Files) (path : Text) (value : Int) : Prop :=
  ∃ origin listen, IsGiven files path origin listen (some (.scalar (.integer value))) ∧
    ListenSuits origin listen

theorem load_eq_ok_of_givesPort {files : Files} {path : Text} {value : Int}
    (gives : GivesPort files path value) :
    ∃ ip ttl records, ∀ config, load files path = .ok config ↔
      ∃ number : UInt16, (number.toNat : Int) = value ∧ config = ⟨⟨ip, number⟩, ttl, records⟩ := by
  rcases gives with ⟨origin, form, entries, ip, ttl, given, hasIp, ipSuits, hasPort, ttlSuits⟩
  rcases load_eq_ok_of_isGiven given with ⟨laid, records, listenLaid, ttlLaid, loads⟩
  rcases ttlLaid.reads_of_suits rejectsTables_whole32 ttlSuits rfl rfl with ⟨usual, readsTtl⟩
  rcases listenLaid.find?_table rfl with ⟨inner, found, innerLaid⟩
  have ipLaid := innerLaid "ip_address" ip (Text.lower_of_plain (by decide)) hasIp
  have portLaid := innerLaid "port" _ (Text.lower_of_plain (by decide)) hasPort
  rcases ipLaid.reads_of_suits rejectsTables_ip ipSuits rfl rfl with ⟨address, readsIp⟩
  refine ⟨address, usual, records, ?_⟩
  rintro ⟨⟨ip, port⟩, ttl, book⟩
  rw [loads, readsTtl.iff_eq, SettingTable.reads_iff_of_find? found]
  change listenOfTable inner = _ ∧ _ ↔ _
  rw [listenOfTable_eq_ok, readsIp.iff_eq, SettingTable.reads_iff_of_find? portLaid.find?_integer,
    Setting.whole16_integer_eq_ok]
  constructor
  · rintro ⟨⟨rfl, equal⟩, rfl, rfl⟩
    exact ⟨port, equal, rfl⟩
  · rintro ⟨number, equal, same⟩
    cases same
    exact ⟨⟨rfl, equal⟩, rfl, rfl⟩

theorem load_eq_ok_of_givesTtl {files : Files} {path : Text} {value : Int}
    (gives : GivesTtl files path value) :
    ∃ listen records, ∀ config, load files path = .ok config ↔
      ∃ number : UInt32, (number.toNat : Int) = value ∧ config = ⟨listen, number, records⟩ := by
  rcases gives with ⟨origin, listen, given, suits⟩
  rcases load_eq_ok_of_isGiven given with ⟨laid, records, listenLaid, ttlLaid, loads⟩
  rcases reads_listen listenLaid suits with ⟨place, readsPlace⟩
  refine ⟨place, records, ?_⟩
  rintro ⟨listen, ttl, book⟩
  rw [loads, readsPlace.iff_eq, SettingTable.reads_iff_of_find? ttlLaid.find?_integer,
    Setting.whole32_integer_eq_ok]
  constructor
  · rintro ⟨rfl, equal, rfl⟩
    exact ⟨ttl, equal, rfl⟩
  · rintro ⟨number, equal, same⟩
    cases same
    exact ⟨rfl, equal, rfl⟩

end ServerConfig

/-! ## All integers of files -/

namespace Config

/-- An integer that a file gives is kept, or the file is not loaded: ports up to the largest,
times up to the largest, and every timeout that is not negative. -/
theorem load_keeps_integers (number : Int64) (files : Files) (path : Text) :
    (ClientConfig.GivesPort files path number.toInt →
      ((∃ config, ClientConfig.load files path = .ok config) ↔
        0 ≤ number.toInt ∧ number.toInt ≤ 65535) ∧
      (∀ config, ClientConfig.load files path = .ok config →
        (config.server.port.toNat : Int) = number.toInt) ∧
      ∀ request, ClientFlags.command.read ["--port".toList, (toString number.toInt).toList] =
          .ok request ↔
        ∃ config, ClientConfig.load files path = .ok config ∧
          request = .run { ClientFlags.unset with port := some config.server.port }) ∧
    (ServerConfig.GivesPort files path number.toInt →
      ((∃ config, ServerConfig.load files path = .ok config) ↔
        0 ≤ number.toInt ∧ number.toInt ≤ 65535) ∧
      ∀ config, ServerConfig.load files path = .ok config →
        (config.listen.port.toNat : Int) = number.toInt) ∧
    (ServerConfig.GivesTtl files path number.toInt →
      ((∃ config, ServerConfig.load files path = .ok config) ↔
        0 ≤ number.toInt ∧ number.toInt ≤ 4294967295) ∧
      ∀ config, ServerConfig.load files path = .ok config →
        (config.ttl.toNat : Int) = number.toInt) ∧
    (ClientConfig.GivesTimeout files path number.toInt →
      ((∃ config, ClientConfig.load files path = .ok config) ↔ 0 ≤ number.toInt) ∧
      ∀ config, ClientConfig.load files path = .ok config →
        ∃ patience, config.patience = some patience ∧
          (patience.seconds : Int) = number.toInt / 1000 ∧
          (patience.nanoseconds : Int) = number.toInt % 1000 * 1000000) := by
  refine ⟨?_, ?_, ?_, ?_⟩
  · intro gives
    rcases ClientConfig.load_eq_ok_of_givesPort gives with ⟨ip, timeout, domain, loads⟩
    refine ⟨(exists_load_iff loads).trans exists_uint16_iff, ?_, ?_⟩
    · intro config loaded
      rcases (loads config).mp loaded with ⟨port, equal, rfl⟩
      exact equal
    · intro request
      rw [ClientFlags.read_port_eq_ok]
      constructor
      · rintro ⟨port, equal, rfl⟩
        exact ⟨_, (loads _).mpr ⟨port, equal, rfl⟩, rfl⟩
      · rintro ⟨config, loaded, rfl⟩
        rcases (loads config).mp loaded with ⟨port, equal, rfl⟩
        exact ⟨port, equal, rfl⟩
  · intro gives
    rcases ServerConfig.load_eq_ok_of_givesPort gives with ⟨ip, ttl, records, loads⟩
    refine ⟨(exists_load_iff loads).trans exists_uint16_iff, ?_⟩
    intro config loaded
    rcases (loads config).mp loaded with ⟨port, equal, rfl⟩
    exact equal
  · intro gives
    rcases ServerConfig.load_eq_ok_of_givesTtl gives with ⟨listen, records, loads⟩
    refine ⟨(exists_load_iff loads).trans exists_uint32_iff, ?_⟩
    intro config loaded
    rcases (loads config).mp loaded with ⟨ttl, equal, rfl⟩
    exact equal
  · intro gives
    have fits : number.toInt < Whole.limit64 := by
      have bound := number.toInt_lt
      have limit : Whole.limit64 = 2 ^ 64 := rfl
      omega
    rcases ClientConfig.load_eq_ok_of_givesTimeout fits gives with ⟨server, domain, loads⟩
    refine ⟨(exists_load_iff loads).trans (exists_uint64_iff fits), ?_⟩
    intro config loaded
    rcases (loads config).mp loaded with ⟨milliseconds, equal, rfl⟩
    refine ⟨.ofMilliseconds milliseconds.toNat, rfl, ?_, ?_⟩
    · simp only [Duration.ofMilliseconds, ← equal]
      omega
    · simp only [Duration.ofMilliseconds, ← equal]
      omega

/-! ### Files around the largest port -/

def largestText : Text :=
  "ttl = 65535\n[Server]\nPORT = 65535\n[resolver]\nport = 65535\ntimeout_ms = 65535\n".toList

def excessText : Text := "resolver.port = 65536\n".toList

def wideFiles : Files := [
  (["largest.toml".toList], .file (Utf8.encode largestText)),
  (["excess.toml".toList], .file (Utf8.encode excessText))]

def largest : Toml.Value := .scalar (.integer 65535)

def largestListen : Toml.Entries := .cons "PORT".toList largest .nil

def largestResolver : Toml.Entries :=
  .cons "port".toList largest (.cons "timeout_ms".toList largest .nil)

def largestEntries : Toml.Entries :=
  .cons "ttl".toList largest (.cons "Server".toList (.table .opened largestListen)
    (.cons "resolver".toList (.table .opened largestResolver) .nil))

def excessResolver : Toml.Entries := .cons "port".toList (.scalar (.integer 65536)) .nil

def excessEntries : Toml.Entries :=
  .cons "resolver".toList (.table .dotted excessResolver) .nil

theorem value?_wideFiles :
    (wideFiles.find? "largest".toList = some ⟨"largest.toml".toList, Utf8.encode largestText⟩ ∧
      Utf8.decode? (Utf8.encode largestText) = some largestText ∧
      Toml.value? largestText = some (.table .opened largestEntries)) ∧
    wideFiles.find? "excess".toList = some ⟨"excess.toml".toList, Utf8.encode excessText⟩ ∧
      Utf8.decode? (Utf8.encode excessText) = some excessText ∧
      Toml.value? excessText = some (.table .opened excessEntries) := by
  decide +kernel

theorem holds_largestText :
    Holds wideFiles "largest".toList (some "largest.toml".toList) largestEntries := by
  rcases value?_wideFiles with ⟨⟨found, decoded, value⟩, _⟩
  exact ⟨_, _, _, found, decoded, value, rfl⟩

theorem holds_excessText :
    Holds wideFiles "excess".toList (some "excess.toml".toList) excessEntries := by
  rcases value?_wideFiles with ⟨_, found, decoded, value⟩
  exact ⟨_, _, _, found, decoded, value, rfl⟩

theorem gives_largestEntries :
    (largestEntries.Gives "resolver" (some (.table .opened largestResolver)) ∧
      largestResolver.Has "ip_address".toList none ∧
      largestResolver.Has "port".toList (some largest) ∧
      largestResolver.Has "timeout_ms".toList (some largest) ∧
      largestEntries.Gives "query" none) ∧
    (largestEntries.Gives "server" (some (.table .opened largestListen)) ∧
      largestListen.Has "ip_address".toList none ∧
      largestListen.Has "port".toList (some largest) ∧
      largestEntries.Gives "ttl" (some largest) ∧ largestEntries.Gives "records" none) := by
  decide +kernel

theorem gives_excessEntries :
    excessEntries.Gives "resolver" (some (.table .dotted excessResolver)) ∧
      excessResolver.Has "ip_address".toList none ∧
      excessResolver.Has "port".toList (some (.scalar (.integer 65536))) ∧
      excessResolver.Has "timeout_ms".toList none ∧ excessEntries.Gives "query" none := by
  decide +kernel

theorem isGiven_client_largestText :
    ClientConfig.IsGiven wideFiles "largest".toList (some "largest.toml".toList) (some largest)
      (some largest) := by
  rcases gives_largestEntries with ⟨⟨resolver, ip, port, timeout, query⟩, _⟩
  exact ⟨_, _, _, _, _, holds_largestText, resolver, ip, suits_none, port, timeout, query,
    suits_none⟩

theorem isGiven_server_largestText :
    ServerConfig.IsGiven wideFiles "largest".toList (some "largest.toml".toList)
      (some (.table .opened largestListen)) (some largest) := by
  rcases gives_largestEntries with ⟨_, listen, _, _, ttl, records⟩
  exact ⟨_, _, holds_largestText, listen, ttl, records, suits_none⟩

theorem givesPort_excessText : ClientConfig.GivesPort wideFiles "excess".toList 65536 := by
  rcases gives_excessEntries with ⟨resolver, ip, port, timeout, query⟩
  exact ⟨_, _, ⟨_, _, _, _, _, holds_excessText, resolver, ip, suits_none, port, timeout, query,
    suits_none⟩, suits_none⟩

/-- The largest port is kept wherever it is given, and the next number is no port. -/
theorem load_keeps_integers_around_largest_port :
    (∃ config, ClientConfig.load wideFiles "largest".toList = .ok config ∧
      config.server.port.toNat = 65535 ∧ config.patience = some ⟨65, 535000000⟩) ∧
    (∃ config, ServerConfig.load wideFiles "largest".toList = .ok config ∧
      config.listen.port.toNat = 65535 ∧ config.ttl.toNat = 65535) ∧
    ¬ ∃ config, ClientConfig.load wideFiles "excess".toList = .ok config := by
  have clientPort : ClientConfig.GivesPort wideFiles "largest".toList 65535 :=
    ⟨_, _, isGiven_client_largestText, suits_some rfl⟩
  have timeout : ClientConfig.GivesTimeout wideFiles "largest".toList 65535 :=
    ⟨_, _, isGiven_client_largestText, suits_some rfl⟩
  rcases gives_largestEntries with ⟨_, _, ip, port, _⟩
  have serverPort : ServerConfig.GivesPort wideFiles "largest".toList 65535 :=
    ⟨_, _, _, _, _, isGiven_server_largestText, ip, suits_none, port, suits_some rfl⟩
  have ttl : ServerConfig.GivesTtl wideFiles "largest".toList 65535 :=
    ⟨_, _, isGiven_server_largestText, _, _, ip, suits_none, port, suits_some rfl⟩
  have kept := load_keeps_integers 65535 wideFiles "largest".toList
  have refused := (load_keeps_integers 65536 wideFiles "excess".toList).1
  rw [show (65535 : Int64).toInt = 65535 from rfl] at kept
  rw [show (65536 : Int64).toInt = 65536 from rfl] at refused
  rcases kept with ⟨keepsPort, keepsListen, keepsTtl, keepsTimeout⟩
  refine ⟨?_, ?_, ?_⟩
  · rcases (keepsPort clientPort).1.mpr (by decide) with ⟨config, loaded⟩
    have port := (keepsPort clientPort).2.1 config loaded
    rcases (keepsTimeout timeout).2 config loaded with ⟨⟨seconds, nanoseconds⟩, waits, whole, rest⟩
    refine ⟨config, loaded, by omega, ?_⟩
    rw [waits, Option.some.injEq, Duration.mk.injEq]
    dsimp only at whole rest
    omega
  · rcases (keepsListen serverPort).1.mpr (by decide) with ⟨config, loaded⟩
    have port := (keepsListen serverPort).2 config loaded
    have seconds := (keepsTtl ttl).2 config loaded
    exact ⟨config, loaded, by omega, by omega⟩
  · rw [(refused givesPort_excessText).1]
    decide

end Config

end StubDns
