import StubDns.Proofs.Config.Documents
import StubDns.Proofs.Dns.RecordLookup
import StubDns.Proofs.Settings.SmallKeys
import StubDns.Proofs.Text.AsciiLetters

/-! # Records of configurations

Loaded records have the keys of a table that was laid: small ones, each of them once. A
record of a file is loaded under its name in small letters, if no other name of the file has
the same small form.
-/

namespace StubDns.ServerConfig

open Config

/-! ## Reading records -/

theorem names_of_recordsOfTable :
    {entries : SettingTable} → {book : AddressBook} → recordsOfTable entries = .ok book →
      book.map (·.1) = entries.keys
  | .nil, book, read => by
      cases read
      rfl
  | .cons domain setting rest, book, read => by
      simp only [recordsOfTable, bind_eq_ok, pure_eq_ok] at read
      rcases read with ⟨address, _, others, later, equal⟩
      rw [← equal, List.map_cons, names_of_recordsOfTable later, SettingTable.keys_cons]

theorem mem_of_recordsOfTable {name : Text} {setting : Setting} {address : Ipv4}
    (reads : setting.ipv4 = .ok address) :
    {entries : SettingTable} → {book : AddressBook} → recordsOfTable entries = .ok book →
      entries.find? name = some setting → (name, address) ∈ book
  | .nil, _, _, found => by cases found
  | .cons domain value rest, book, read, found => by
      simp only [recordsOfTable, bind_eq_ok, pure_eq_ok, mapError_eq_ok] at read
      rcases read with ⟨first, firstReads, others, later, equal⟩
      rw [← equal]
      rw [SettingTable.find?] at found
      split at found
      · next here =>
          cases found
          cases firstReads.symm.trans reads
          rw [here]
          exact List.mem_cons_self
      · exact List.mem_cons_of_mem _ (mem_of_recordsOfTable reads later found)

theorem settings_of_load {files : Files} {path : Text} {config : ServerConfig}
    (loaded : load files path = .ok config) :
    ∃ settings, Config.settings defaults files path = .ok settings ∧
      read settings = .ok config := by
  change (Config.settings defaults files path >>= read) = _ at loaded
  exact bind_eq_ok.mp loaded

section Read

variable {settings : Setting} {config : ServerConfig}

theorem records_of_absent (reads : read settings = .ok config)
    (absent : settings.under? "records".toList = none) : config.records = [] := by
  rcases read_eq_ok.mp reads with ⟨-, -, given, field, equal⟩
  rw [SettingTable.field?_of_none readRecords absent] at field
  cases field
  exact equal.symm

theorem records_of_under? (reads : read settings = .ok config) {setting : Setting}
    (found : settings.under? "records".toList = some setting) :
    ∃ origin entries, setting = .table origin entries ∧
      recordsOfTable entries = .ok config.records := by
  rcases read_eq_ok.mp reads with ⟨-, -, given, field, equal⟩
  cases given with
  | none =>
      have present : settings.asTable.2.find? "records".toList = some setting := found
      rw [SettingTable.field?, present, map_eq_ok] at field
      rcases field with ⟨book, _, none⟩
      cases none
  | some book =>
      have booked := (SettingTable.reads_iff_of_find? found).mp
        (SettingTable.field?_eq_ok_some.mp field)
      rw [← equal]
      cases setting with
      | plain => cases booked
      | array => cases booked
      | table origin entries => exact ⟨origin, entries, rfl, booked⟩

end Read

/-! ## Names -/

section Load

variable {files : Files} {path : Text} {config : ServerConfig}

/-- The names of loaded records are small and each is there once, whatever the file is. -/
theorem names_of_load (loaded : load files path = .ok config) :
    (∀ entry ∈ config.records, Text.lower entry.1 = entry.1) ∧
      (config.records.map (·.1)).Nodup := by
  rcases settings_of_load loaded with ⟨settings, made, reads⟩
  rw [Config.settings, map_eq_ok] at made
  rcases made with ⟨document, _, merged⟩
  have holds := Setting.smallKeys_merged defaults document
  rw [merged] at holds
  cases given : settings.under? "records".toList with
  | none =>
      rw [records_of_absent reads given]
      exact ⟨fun _ member => absurd member List.not_mem_nil, List.nodup_nil⟩
  | some setting =>
      rcases records_of_under? reads given with ⟨origin, entries, equal, booked⟩
      have table := holds.under? given
      rw [equal] at table
      have names := names_of_recordsOfTable booked
      constructor
      · intro entry member
        apply table.small_table
        rw [← names]
        exact List.mem_map_of_mem member
      · rw [names]
        exact table.ordered_table.nodup_keys

theorem foldAscii_of_load (loaded : load files path = .ok config) :
    ∀ entry ∈ config.records, Text.foldAscii entry.1 = entry.1 := by
  intro entry member
  rw [← (names_of_load loaded).1 entry member, Text.foldAscii_lower]

/-- Loaded records do not disagree on names that differ only in case. -/
theorem caseConsistent_of_load (loaded : load files path = .ok config) :
    config.records.CaseConsistent := by
  apply AddressBook.caseConsistent_of_nodup
  rw [List.map_congr_left (foldAscii_of_load loaded)]
  exact (names_of_load loaded).2

end Load

/-! ## Records of a file -/

/-- A server's file gives a name an address in a table of records, whose names have different
small forms. -/
def GivesRecord (files : Files) (path name : Text) (address : Ipv4) : Prop :=
  ∃ origin entries form records value, Holds files path origin entries ∧
    entries.Gives "records" (some (.table form records)) ∧
    (records.keys.map Text.lower).Nodup ∧ records.find? name = some value ∧
    (Setting.ofValue origin value).ipv4 = .ok address

theorem mem_keys_of_find? {name : Text} {value : Toml.Value} :
    {records : Toml.Entries} → records.find? name = some value → name ∈ records.keys
  | .nil, found => by cases found
  | .cons key other rest, found => by
      rw [Toml.Entries.find?] at found
      rw [Toml.Entries.keys]
      split at found
      · next here =>
          rw [here]
          exact List.mem_cons_self
      · exact List.mem_cons_of_mem key (mem_keys_of_find? found)

theorem has_lower {records : Toml.Entries} (apart : (records.keys.map Text.lower).Nodup)
    {name : Text} {value : Toml.Value} (found : records.find? name = some value) :
    records.Has (Text.lower name) (some value) := by
  have member := mem_keys_of_find? found
  refine ⟨name, member, rfl, found, ?_⟩
  intro other otherMember same
  exact List.inj_on_of_nodup_map apart otherMember member same

/-- A record of a file is loaded with its address, under its name in small letters. -/
theorem mem_records_of_givesRecord {files : Files} {path name : Text} {address : Ipv4}
    (gives : GivesRecord files path name address) {config : ServerConfig}
    (loaded : load files path = .ok config) : (Text.lower name, address) ∈ config.records := by
  rcases gives with ⟨origin, entries, form, records, value, holds, given, apart, named, reads⟩
  rcases (laid_records given origin).find?_table rfl with ⟨inner, found, innerLaid⟩
  have key : (String.ofList (Text.lower name)).toList = Text.lower name := String.toList_ofList
  have laid := innerLaid (String.ofList (Text.lower name)) (some value)
  rw [Laid, key] at laid
  have stands := laid (Text.lower_lower name) (has_lower apart named)
  simp only [Option.map_some, Setting.overlaid, overlay_of_ipv4 _ ⟨address, reads⟩] at stands
  rcases settings_of_load loaded with ⟨settings, made, read⟩
  cases (settings_of_holds holds defaults).symm.trans made
  rcases records_of_under? read found with ⟨_, _, equal, booked⟩
  cases equal
  exact mem_of_recordsOfTable reads booked stands

end StubDns.ServerConfig
