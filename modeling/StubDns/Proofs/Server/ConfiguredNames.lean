import StubDns.Proofs.Config.Records
import StubDns.Proofs.Server.Agreement

/-! # Names of a configuration

A server answers the names of its file in every spelling that the ASCII letters alone make
the small form of the name. A name is such a spelling of itself if it has no other letters
that become small. A name that has some is not answered as it is written in the file.
-/

namespace StubDns.Server

/-! ## Starting -/

theorem start_eq_ok {network : Network} {files : Files} {arguments : List Text}
    {service : Service} (started : start network files arguments = .ok service) :
    ∃ flags config, ServerFlags.command.start arguments = .ok flags ∧
      ServerConfig.load files flags.configPath = .ok config ∧ service.table = config.table := by
  rw [start, prepare] at started
  cases given : ServerFlags.command.start arguments with
  | error run =>
      simp only [given] at started
      cases started
  | ok flags =>
      cases loaded : flags.load files with
      | error error =>
          simp only [given, loaded] at started
          cases started
      | ok config =>
          simp only [given, loaded] at started
          cases listening : network.listening (Server.service config).listen with
          | error error =>
              simp only [listening] at started
              cases started
          | ok _ =>
              simp only [listening] at started
              cases started
              exact ⟨flags, config, rfl, loaded, rfl⟩

/-! ## Replies to a client -/

/-- A server replies to the query of a client for a domain, and what the client reads is the
whole response to it. -/
structure Replies (table : RecordTable) (buffer : Datagram) (domain : Text)
    (response : Datagram) (query : Query) : Prop where
  replied : (step table buffer (Query.make domain .standard).encode).1.reaction = .reply response
  whole : received response = response
  read : Query.decode response = .ok query
  sameDomain : query.domain = domain

theorem ne_nil_of_labels {domain : Text}
    (sizes : ∀ label ∈ Text.cut '.' domain,
      1 ≤ (Utf8.encode label).length ∧ (Utf8.encode label).length ≤ 63) : domain ≠ [] := by
  intro empty
  rw [empty] at sizes
  exact absurd (sizes [] List.mem_cons_self).1 (by decide)

theorem exists_replies_agrees {records : AddressBook} (consistent : records.CaseConsistent)
    (ttl : UInt32) {domain : Text} (nonempty : domain ≠ []) (writable : Name.Writable domain)
    (short : (Utf8.encode domain).length ≤ 478)
    {buffer : Datagram} (full : buffer.length = maxDatagram) :
    ∃ response query, Replies (.make records ttl) buffer domain response query ∧
      Agrees records ttl domain response query := by
  have agrees : Agrees records ttl domain (clientResponse (.make records ttl) domain) _ :=
    agrees_clientResponse consistent nonempty writable
  have replied := step_of_client full (.make records ttl) nonempty writable (by omega)
  have whole : received (clientResponse (.make records ttl) domain) =
      clientResponse (.make records ttl) domain := by
    apply received_eq_self
    have answers := RecordTable.length_answerSection_le (.make records ttl)
      (.make domain .standard)
    rw [length_clientResponse _ nonempty, maxDatagram]
    omega
  exact ⟨_, _, ⟨replied, whole, agrees.read, agrees.sameDomain⟩, agrees⟩

/-! ## Small forms -/

/-- A small name is known by the ASCII letters of a domain only if no other letter of the
domain becomes small. -/
theorem foldAscii_eq_lower_of_known {name domain : Text} (small : Text.lower name = name)
    (known : Text.foldAscii name = Text.foldAscii domain) :
    Text.foldAscii domain = Text.lower domain := by
  have folded : Text.foldAscii domain = name := by
    rw [← known, ← small, Text.foldAscii_lower]
  rw [folded, Text.lower_eq_of_foldAscii_eq small folded]

section Loaded

variable {files : Files} {path name domain : Text} {config : ServerConfig} {buffer : Datagram}

/-- A domain that the ASCII letters alone make the small form of a name gets its address. -/
theorem exists_replies_of_spelling (loaded : ServerConfig.load files path = .ok config)
    {address : Ipv4} (gives : ServerConfig.GivesRecord files path name address)
    (spelled : Text.foldAscii domain = Text.lower name) (nonempty : domain ≠ [])
    (writable : Name.Writable domain) (short : (Utf8.encode domain).length ≤ 478)
    (full : buffer.length = maxDatagram) :
    ∃ response query, Replies config.table buffer domain response query ∧
      query.header.flags = 0x8180 ∧ query.header.answers = 1 ∧
      response.drop (response.length - 10) =
        doubleWordBytes config.ttl ++ ([0, 4] ++ address.octets) := by
  have consistent := ServerConfig.caseConsistent_of_load loaded
  rcases exists_replies_agrees consistent config.ttl nonempty writable short full with
    ⟨response, query, replies, agrees⟩
  have member := ServerConfig.mem_records_of_givesRecord gives loaded
  have equal : Text.foldAscii (Text.lower name) = Text.foldAscii domain := by
    rw [Text.foldAscii_lower, spelled]
  rcases agrees.known _ address member equal with ⟨flags, answers, _, behind⟩
  exact ⟨response, query, replies, flags, answers, behind⟩

/-- A domain with another letter that becomes small is unknown, whatever the file is. -/
theorem exists_replies_of_other_capital (loaded : ServerConfig.load files path = .ok config)
    (different : Text.foldAscii domain ≠ Text.lower domain) (nonempty : domain ≠ [])
    (writable : Name.Writable domain) (short : (Utf8.encode domain).length ≤ 478)
    (full : buffer.length = maxDatagram) :
    ∃ response query, Replies config.table buffer domain response query ∧
      query.header.flags = 0x8183 ∧ query.header.answers = 0 := by
  have consistent := ServerConfig.caseConsistent_of_load loaded
  rcases exists_replies_agrees consistent config.ttl nonempty writable short full with
    ⟨response, query, replies, agrees⟩
  have small := (ServerConfig.names_of_load loaded).1
  have unknown := agrees.unknown fun name address member known =>
    different (foldAscii_eq_lower_of_known (small (name, address) member) known)
  exact ⟨response, query, replies, unknown.1, unknown.2.1⟩

end Loaded

/-! ## Names of a file -/

/-- A server that was started with a file answers the query for each name of its records with
the address of the name, if the ASCII letters are all that becomes small in the name; and
otherwise it says that there is no such name. -/
theorem reply_to_configured_name {network : Network} {files : Files} {arguments : List Text}
    {service : Service} (started : start network files arguments = .ok service)
    {flags : ServerFlags} (given : ServerFlags.command.start arguments = .ok flags)
    {name : Text} {address : Ipv4}
    (gives : ServerConfig.GivesRecord files flags.configPath name address)
    (sizes : ∀ label ∈ Text.cut '.' name,
      1 ≤ (Utf8.encode label).length ∧ (Utf8.encode label).length ≤ 63)
    (short : (Utf8.encode name).length ≤ 478) {buffer : Datagram} (full : buffer.length = 512) :
    ∃ response query, Replies service.table buffer name response query ∧
      (Text.foldAscii name = Text.lower name →
        query.header.flags = 0x8180 ∧ query.header.answers = 1 ∧
          response.drop (response.length - 10) =
            doubleWordBytes service.table.ttl ++ ([0, 4] ++ address.octets)) ∧
      (Text.foldAscii name ≠ Text.lower name →
        query.header.flags = 0x8183 ∧ query.header.answers = 0) := by
  rcases start_eq_ok started with ⟨others, config, sameFlags, loaded, table⟩
  cases given.symm.trans sameFlags
  have nonempty := ne_nil_of_labels sizes
  have writable : Name.Writable name := .inr sizes
  rw [table]
  by_cases spelled : Text.foldAscii name = Text.lower name
  · rcases exists_replies_of_spelling loaded gives spelled nonempty writable short full with
      ⟨response, query, replies, answered⟩
    exact ⟨response, query, replies, fun _ => answered, fun different => absurd spelled different⟩
  · rcases exists_replies_of_other_capital loaded spelled nonempty writable short full with
      ⟨response, query, replies, unknown⟩
    exact ⟨response, query, replies, fun equal => absurd equal spelled, fun _ => unknown⟩

/-! ### A file with two names -/

def zoneText : Text :=
  "[records]\n\"Z.cn\" = \"1.2.3.4\"\n\"É.fr\" = \"5.6.7.8\"\n".toList

def zoneFiles : Files := [(["zone.toml".toList], .file (Utf8.encode zoneText))]

def zoneArguments : List Text := ["--config".toList, "zone".toList]

def zoneRecords : Toml.Entries :=
  .cons "Z.cn".toList (.scalar (.string "1.2.3.4".toList))
    (.cons "É.fr".toList (.scalar (.string "5.6.7.8".toList)) .nil)

def zoneEntries : Toml.Entries := .cons "records".toList (.table .opened zoneRecords) .nil

def zoneService : Service where
  listen := ⟨.loopback, 2053⟩
  table := .make [("z.cn".toList, ⟨1, 2, 3, 4⟩), ("é.fr".toList, ⟨5, 6, 7, 8⟩)] 60

theorem start_zoneFiles : start .isolated zoneFiles zoneArguments = .ok zoneService := by
  decide +kernel

theorem start_zoneArguments :
    ServerFlags.command.start zoneArguments = .ok ⟨some "zone".toList⟩ := by
  decide +kernel

theorem givesRecord_zoneFiles {name : Text} {value : Toml.Value} {address : Ipv4}
    (found : zoneRecords.find? name = some value)
    (reads : (Setting.ofValue (some "zone.toml".toList) value).ipv4 = .ok address) :
    ServerConfig.GivesRecord zoneFiles "zone".toList name address := by
  have text : zoneFiles.find? "zone".toList = some ⟨"zone.toml".toList, Utf8.encode zoneText⟩ ∧
      Utf8.decode? (Utf8.encode zoneText) = some zoneText ∧
      Toml.value? zoneText = some (.table .opened zoneEntries) := by
    decide +kernel
  have gives : zoneEntries.Gives "records" (some (.table .opened zoneRecords)) := by
    decide +kernel
  have apart : (zoneRecords.keys.map Text.lower).Nodup := by decide +kernel
  rcases text with ⟨named, decoded, parsed⟩
  exact ⟨_, _, _, _, _, ⟨_, _, _, named, decoded, parsed, rfl⟩, gives, apart, found, reads⟩

/-- The name with an ASCII capital is answered as it is written. -/
theorem reply_to_configured_name_with_ascii_capital :
    ∃ service response query, start .isolated zoneFiles zoneArguments = .ok service ∧
      Replies service.table freshBuffer "Z.cn".toList response query ∧
      query.header.flags = 0x8180 ∧
      response.drop (response.length - 10) = [0, 0, 0, 60, 0, 4, 1, 2, 3, 4] := by
  have gives : ServerConfig.GivesRecord zoneFiles "zone".toList "Z.cn".toList ⟨1, 2, 3, 4⟩ :=
    givesRecord_zoneFiles rfl rfl
  have full : freshBuffer.length = 512 := List.length_replicate
  rcases reply_to_configured_name start_zoneFiles start_zoneArguments gives (by decide)
    (by decide) full with ⟨response, query, replies, answered, -⟩
  rcases answered (by decide +kernel) with ⟨flags, -, behind⟩
  exact ⟨_, response, query, start_zoneFiles, replies, flags, behind⟩

/-- The name with another capital is in the file, and it is unknown as it is written. -/
theorem configured_name_unknown_with_other_capital :
    ∃ service response query, start .isolated zoneFiles zoneArguments = .ok service ∧
      ServerConfig.GivesRecord zoneFiles "zone".toList "É.fr".toList ⟨5, 6, 7, 8⟩ ∧
      Replies service.table freshBuffer "É.fr".toList response query ∧
      query.header.flags = 0x8183 ∧ query.header.answers = 0 := by
  have gives : ServerConfig.GivesRecord zoneFiles "zone".toList "É.fr".toList ⟨5, 6, 7, 8⟩ :=
    givesRecord_zoneFiles rfl rfl
  have full : freshBuffer.length = maxDatagram := List.length_replicate
  rcases start_eq_ok start_zoneFiles with ⟨flags, config, -, loaded, table⟩
  have different : Text.foldAscii "É.fr".toList ≠ Text.lower "É.fr".toList := by decide +kernel
  rcases exists_replies_of_other_capital loaded different (by decide) (.inr (by decide))
    (by decide) full with ⟨response, query, replies, unknown⟩
  rw [← table] at replies
  exact ⟨_, response, query, start_zoneFiles, gives, replies, unknown⟩

end StubDns.Server
