import StubDns.Proofs.Config.Layers

/-! # Files over defaults

Each field of a configuration is taken from the file if this gives it, and otherwise from the
defaults. So what a file has besides the places of the configuration does not matter, nor does
the case of its keys; and a file that is not there, or says nothing, leaves the defaults.
-/

namespace StubDns

open Toml (Entries)

/-! ## Files that are not there -/

namespace Files

/-- No file stands at the end of some parts, but nothing or a folder. -/
def Lacks (files : Files) (parts : List Text) : Prop :=
  ∀ location bytes, files.follow [] parts = some location → (location, FileNode.file bytes) ∉ files

/-- A path names no file, neither as it stands nor with `.toml` put behind it. -/
def LacksPath (files : Files) (path : Text) : Prop :=
  files.Lacks (segments path) ∧ ∀ front last, segments path = front ++ [last] →
    files.Lacks (front ++ [last ++ ".toml".toList])

variable {files : Files}

theorem Lacks.at?_eq_none {parts : List Text} (lacks : files.Lacks parts) :
    files.at? parts = none := by
  rw [at?]
  cases follow : files.follow [] parts with
  | none => rfl
  | some location =>
      have noBytes : files.bytes? location = none := by
        rw [bytes?]
        split
        · next here bytes found =>
            have named : here = location := by simpa using List.find?_some found
            subst named
            exact absurd (List.mem_of_find?_eq_some found) (lacks here bytes follow)
        · rfl
      change (files.bytes? location >>= _) = _
      rw [noBytes]
      rfl

theorem LacksPath.find?_eq_none {path : Text} (lacks : files.LacksPath path) :
    files.find? path = none := by
  have notNamed : files.named? path = none := by
    rw [named?, lacks.1.at?_eq_none, ite_self]
  have notExtended : files.extended? path = none := by
    rw [extended?]
    cases last : (segments path).getLast? with
    | none => rfl
    | some part =>
        have split := List.dropLast_append_getLast? part last
        dsimp only
        rw [(lacks.2 _ part split.symm).at?_eq_none, ite_self]
  rw [find?, notNamed, notExtended]
  rfl

end Files

namespace Config

/-- A path names no file, or one that is an empty document. -/
def SaysNothing (files : Files) (path : Text) : Prop :=
  files.LacksPath path ∨ ∃ origin, Holds files path origin .nil

theorem SaysNothing.document_eq {files : Files} {path : Text} (nothing : SaysNothing files path) :
    document files path = .ok .nil := by
  rcases nothing with lacks | ⟨origin, holds⟩
  · rw [document, lacks.find?_eq_none]
  · rw [document_of_holds holds, SettingTable.ofEntries]

theorem SaysNothing.settings_eq {files : Files} {path : Text} (nothing : SaysNothing files path)
    (defaults : List Default) : settings defaults files path = .ok (Setting.merged defaults .nil) := by
  rw [settings, nothing.document_eq]
  rfl

end Config

/-! ## The client -/

namespace ClientConfig

open Config

variable {files others : Files} {path : Text} {origin : Origin} {entries left right : Entries}
  {config : ClientConfig}

theorem load_eq_ok_iff_takes (holds : Holds files path origin entries)
    (unblocked : entries.Unblocked Place) :
    load files path = .ok config ↔ Takes origin entries config := by
  rw [load, settings_of_holds holds]
  exact read_merged_eq_ok_iff unblocked origin

theorem Takes.of_varies (varies : left.Varies Place right) (takes : Takes origin left config) :
    Takes origin right config where
  ip := varies.at?_eq .ip ▸ takes.ip
  port := varies.at?_eq .port ▸ takes.port
  timeout := varies.at?_eq .timeout ▸ takes.timeout
  domain := varies.at?_eq .domain ▸ takes.domain

/-- Files that are the same but for their writing load the same configuration. -/
theorem load_eq_ok_iff_of_varies (holds : Holds files path origin left)
    (otherHolds : Holds others path origin right) (unblocked : left.Unblocked Place)
    (otherUnblocked : right.Unblocked Place) (varies : left.Varies Place right) :
    load files path = .ok config ↔ load others path = .ok config := by
  rw [load_eq_ok_iff_takes holds unblocked, load_eq_ok_iff_takes otherHolds otherUnblocked]
  exact ⟨.of_varies varies, .of_varies varies.symm⟩

theorem load_of_saysNothing (nothing : SaysNothing files path) :
    load files path = .ok ⟨⟨.loopback, 2053⟩, none, "google.com".toList⟩ := by
  rw [load, nothing.settings_eq]
  rfl

end ClientConfig

/-! ## The server -/

namespace ServerConfig

open Config

variable {files others : Files} {path : Text} {origin : Origin} {entries left right : Entries}
  {config : ServerConfig}

theorem load_eq_ok_iff_takes (holds : Holds files path origin entries)
    (unblocked : entries.Unblocked Place) :
    load files path = .ok config ↔ Takes origin entries config := by
  rw [load, settings_of_holds holds]
  exact read_merged_eq_ok_iff unblocked origin

theorem Takes.of_varies (varies : left.Varies Place right) (takes : Takes origin left config) :
    Takes origin right config where
  ip := varies.at?_eq .ip ▸ takes.ip
  port := varies.at?_eq .port ▸ takes.port
  ttl := varies.at?_eq .ttl ▸ takes.ttl
  records := by
    rcases takes.records with ⟨table, ordered, found, reads⟩
    exact ⟨table, ordered, fun name => varies.at?_eq (.record name) ▸ found name, reads⟩

/-- Files that are the same but for their writing load the same configuration. -/
theorem load_eq_ok_iff_of_varies (holds : Holds files path origin left)
    (otherHolds : Holds others path origin right) (unblocked : left.Unblocked Place)
    (otherUnblocked : right.Unblocked Place) (varies : left.Varies Place right) :
    load files path = .ok config ↔ load others path = .ok config := by
  rw [load_eq_ok_iff_takes holds unblocked, load_eq_ok_iff_takes otherHolds otherUnblocked]
  exact ⟨.of_varies varies, .of_varies varies.symm⟩

theorem load_of_saysNothing (nothing : SaysNothing files path) :
    load files path = .ok ⟨⟨.loopback, 2053⟩, 60, []⟩ := by
  rw [load, nothing.settings_eq]
  rfl

end ServerConfig

/-! ## Both programs -/

namespace Config

/-- The settings that a configuration is read from hold at each of its places the value of the
file, or else the default, and these values alone decide what is loaded, as long as no key at
the root is a path to something else, neither as it is written nor in small letters. Keys with
other names and the case of keys do not matter. Where no file is found, and where it is empty,
the defaults are loaded. -/
theorem load_file_over_defaults (files : Files) (path : Text) :
    (∀ origin entries, Holds files path origin entries → entries.Unblocked ClientConfig.Place →
      ∃ tree, settings ClientConfig.defaults files path = .ok tree ∧
        ClientConfig.load files path = ClientConfig.read tree ∧
        ClientConfig.Layered origin entries tree ∧
        (∀ config, ClientConfig.load files path = .ok config ↔
          ClientConfig.Takes origin entries config) ∧
        ∀ others otherEntries, Holds others path origin otherEntries →
          otherEntries.Unblocked ClientConfig.Place →
          entries.Varies ClientConfig.Place otherEntries →
          ∀ config, ClientConfig.load files path = .ok config ↔
            ClientConfig.load others path = .ok config) ∧
    (SaysNothing files path →
      ClientConfig.load files path = .ok ⟨⟨.loopback, 2053⟩, none, "google.com".toList⟩) ∧
    (∀ origin entries, Holds files path origin entries → entries.Unblocked ServerConfig.Place →
      ∃ tree, settings ServerConfig.defaults files path = .ok tree ∧
        ServerConfig.load files path = ServerConfig.read tree ∧
        ServerConfig.Layered origin entries tree ∧
        (∀ config, ServerConfig.load files path = .ok config ↔
          ServerConfig.Takes origin entries config) ∧
        ∀ others otherEntries, Holds others path origin otherEntries →
          otherEntries.Unblocked ServerConfig.Place →
          entries.Varies ServerConfig.Place otherEntries →
          ∀ config, ServerConfig.load files path = .ok config ↔
            ServerConfig.load others path = .ok config) ∧
    (SaysNothing files path →
      ServerConfig.load files path = .ok ⟨⟨.loopback, 2053⟩, 60, []⟩) := by
  refine ⟨?_, ClientConfig.load_of_saysNothing, ?_, ServerConfig.load_of_saysNothing⟩
  · intro origin entries holds unblocked
    have loaded := settings_of_holds holds ClientConfig.defaults
    refine ⟨_, loaded, by rw [ClientConfig.load, loaded]; rfl,
      ClientConfig.layered_merged unblocked origin,
      fun config => ClientConfig.load_eq_ok_iff_takes holds unblocked, ?_⟩
    intro others otherEntries otherHolds otherUnblocked varies config
    exact ClientConfig.load_eq_ok_iff_of_varies holds otherHolds unblocked otherUnblocked varies
  · intro origin entries holds unblocked
    have loaded := settings_of_holds holds ServerConfig.defaults
    refine ⟨_, loaded, by rw [ServerConfig.load, loaded]; rfl,
      ServerConfig.layered_merged unblocked origin,
      fun config => ServerConfig.load_eq_ok_iff_takes holds unblocked, ?_⟩
    intro others otherEntries otherHolds otherUnblocked varies config
    exact ServerConfig.load_eq_ok_iff_of_varies holds otherHolds unblocked otherUnblocked varies

/-! ### A port and a record -/

def dnsFiles (text : Text) : Files := [(["dns.toml".toList], .file (Utf8.encode text))]

def portText : Text := "[Resolver]\nPORT = 53\n".toList

def otherText : Text := "note = 'x'\n[resolver]\nretries = 2\nport = 53\n".toList

def recordText : Text := "[Records]\n'Z.cn' = '1.2.3.4'\n".toList

def ownPort : Toml.Value := .scalar (.integer 53)

def portEntries : Entries :=
  .cons "Resolver".toList (.table .opened (.cons "PORT".toList ownPort .nil)) .nil

def otherEntries : Entries :=
  .cons "note".toList (.scalar (.string "x".toList))
    (.cons "resolver".toList (.table .opened (.cons "retries".toList (.scalar (.integer 2))
      (.cons "port".toList ownPort .nil))) .nil)

def ownRecords : Entries := .cons "Z.cn".toList (.scalar (.string "1.2.3.4".toList)) .nil

def recordEntries : Entries := .cons "Records".toList (.table .opened ownRecords) .nil

theorem holds_of_value? {text : Text} {entries : Entries}
    (reads : (dnsFiles text).find? "dns".toList = some ⟨"dns.toml".toList, Utf8.encode text⟩ ∧
      Utf8.decode? (Utf8.encode text) = some text ∧
      Toml.value? text = some (.table .opened entries)) :
    Holds (dnsFiles text) "dns".toList (some "dns.toml".toList) entries :=
  ⟨_, _, _, reads.1, reads.2.1, reads.2.2, rfl⟩

theorem varies_otherEntries : portEntries.Varies ClientConfig.Place otherEntries := by
  apply Entries.Varies.added
  · intro place isPlace
    generalize name : Text.lower "note".toList = group at isPlace
    cases isPlace <;> exact absurd name (by decide +kernel)
  · apply Entries.Varies.inside (by decide +kernel) _ _ _ _ (.nil _)
    · intro isPlace
      cases isPlace
    · apply Entries.Varies.added
      · intro place isPlace
        generalize Text.lower "Resolver".toList = group at isPlace
        generalize name : Text.lower "retries".toList = key at isPlace
        cases isPlace <;> exact absurd name (by decide +kernel)
      · exact .kept (by decide +kernel) _ (.nil _)

theorem spelled?_recordEntries :
    recordEntries.spelled? "records".toList = some (.table .opened ownRecords) := by
  decide +kernel

theorem spelled?_ownRecords (name : Text) : ownRecords.spelled? name =
    if "z.cn".toList = name then some (.scalar (.string "1.2.3.4".toList)) else none := by
  have small : Text.lower "Z.cn".toList = "z.cn".toList := by decide +kernel
  rw [← small]
  rfl

theorem unblocked_recordEntries : recordEntries.Unblocked ServerConfig.Place := by
  refine ⟨by decide +kernel, ?_⟩
  intro place isPlace
  cases isPlace with
  | record name =>
      refine Entries.clear_cons_iff.mpr ⟨by decide +kernel, ?_⟩
      intro table own
      rw [spelled?_recordEntries] at own
      cases own
      refine ⟨by decide +kernel, ?_⟩
      intro value own
      rw [spelled?_ownRecords] at own
      split at own
      · cases own
        trivial
      · cases own
  | _ => decide +kernel

/-- The port is taken from the file however it is written, and the record is; everything else
is the default, and so is the port without the file. -/
theorem load_file_over_defaults_with_port_and_record :
    ClientConfig.load (dnsFiles portText) "dns".toList =
        .ok ⟨⟨.loopback, 53⟩, none, "google.com".toList⟩ ∧
      ClientConfig.load (dnsFiles otherText) "dns".toList =
        .ok ⟨⟨.loopback, 53⟩, none, "google.com".toList⟩ ∧
      ClientConfig.load [] "dns".toList = .ok ⟨⟨.loopback, 2053⟩, none, "google.com".toList⟩ ∧
      ServerConfig.load (dnsFiles recordText) "dns".toList =
        .ok ⟨⟨.loopback, 2053⟩, 60, [("z.cn".toList, ⟨1, 2, 3, 4⟩)]⟩ := by
  have holds : Holds (dnsFiles portText) _ _ portEntries := holds_of_value? (by decide +kernel)
  have otherHolds : Holds (dnsFiles otherText) _ _ otherEntries :=
    holds_of_value? (by decide +kernel)
  have recordHolds : Holds (dnsFiles recordText) _ _ recordEntries :=
    holds_of_value? (by decide +kernel)
  rcases (load_file_over_defaults _ _).1 _ _ holds (by decide +kernel) with
    ⟨_, _, _, _, takes, varied⟩
  rcases (load_file_over_defaults _ _).2.2.1 _ _ recordHolds unblocked_recordEntries with
    ⟨_, _, _, _, recordTakes, _⟩
  have loaded := (takes ⟨⟨.loopback, 53⟩, none, "google.com".toList⟩).mpr ⟨rfl, rfl, rfl, rfl⟩
  have lacks : ∀ parts, Files.Lacks [] parts := fun _ _ _ _ => List.not_mem_nil
  refine ⟨loaded, (varied _ _ otherHolds (by decide +kernel) varies_otherEntries _).mp loaded,
    (load_file_over_defaults [] _).2.1 (.inl ⟨lacks _, fun _ _ _ => lacks _⟩),
    (recordTakes _).mpr ⟨rfl, rfl, rfl, ?_⟩⟩
  let record : Setting := .plain (some "dns.toml".toList) (.string "1.2.3.4".toList)
  refine ⟨.cons "z.cn".toList record .nil, List.pairwise_singleton _ _, ?_, rfl⟩
  intro name
  rw [ServerConfig.recordPlace, Entries.at?_cons, spelled?_recordEntries]
  change _ = ((ownRecords.spelled? name).bind some).map _
  rw [spelled?_ownRecords, SettingTable.find?]
  split <;> rfl

/-! ### A key that is a path in small letters only -/

def kelvinText : Text := "'resolver.port.\u212A' = 1\n".toList

def kelvinEntries : Entries :=
  .cons "resolver.port.\u212A".toList (.scalar (.integer 1)) .nil

/-- The Kelvin sign is not a character of keys, so that the key is no path as it is written. In
small letters it is one, and it replaces the default of the port by a table. -/
theorem load_fails_of_path_in_small_letters :
    ∃ tree, Holds (dnsFiles kelvinText) "dns".toList (some "dns.toml".toList) kelvinEntries ∧
      (∀ key ∈ kelvinEntries.keys, Setting.isExpression key = false) ∧
      (∀ place, ClientConfig.Place place →
        kelvinEntries.Clear place ∧ kelvinEntries.at? place = none) ∧
      settings ClientConfig.defaults (dnsFiles kelvinText) "dns".toList = .ok tree ∧
      tree.at? (placeIn "resolver" "port") ≠ some (.plain none (.integer 2053)) ∧
      ¬ ClientConfig.Layered (some "dns.toml".toList) kelvinEntries tree ∧
      ClientConfig.load (dnsFiles kelvinText) "dns".toList =
        .error (.value .map .integer "resolver.port".toList none) := by
  have holds : Holds (dnsFiles kelvinText) _ _ kelvinEntries := holds_of_value? (by decide +kernel)
  have loaded := settings_of_holds holds ClientConfig.defaults
  have noDefault : (Setting.merged ClientConfig.defaults
      (.ofEntries (some "dns.toml".toList) kelvinEntries)).at? (placeIn "resolver" "port") ≠
      some (.plain none (.integer 2053)) := by
    decide +kernel
  have absent : kelvinEntries.at? (placeIn "resolver" "port") = none := by decide +kernel
  refine ⟨_, holds, by decide +kernel, ?_, loaded, noDefault, ?_, ?_⟩
  · intro place isPlace
    cases isPlace <;> decide +kernel
  · intro layered
    have port := layered.port
    rw [absent] at port
    exact noDefault port
  · rw [ClientConfig.load, loaded]
    decide +kernel

end Config

end StubDns
