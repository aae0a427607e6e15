import StubDns.Proofs.Results
import StubDns.Proofs.Settings.Layering
import StubDns.Settings.Reading

/-! # Fields that read

Reading a record succeeds just if each of its fields does. What a field reads is the
value that a file gives for it, as far as the file gives one, and the default otherwise.
An integer is read as the number that it is, or not at all.
-/

namespace StubDns

/-! ## Fields of a table -/

@[simp]
theorem required_eq_ok {field : String} {value : Option α} {result : α} :
    required field value = .ok result ↔ value = some result := by
  cases value <;> simp [required]

namespace SettingTable

/-- The table has a value under the name that reads as the result. -/
def Reads (entries : SettingTable) (name : String) (read : Setting → Read α) (result : α) :
    Prop :=
  ∃ setting, entries.find? name.toList = some setting ∧ read setting = .ok result

variable {entries : SettingTable} {name : String} {setting : Setting}

theorem field?_of_none (read : Setting → Read α) (absent : entries.find? name.toList = none) :
    entries.field? name read = .ok none := by
  rw [field?, absent]

@[simp]
theorem field?_eq_ok_some {read : Setting → Read α} {result : α} :
    entries.field? name read = .ok (some result) ↔ entries.Reads name read result := by
  rw [field?, Reads]
  cases entries.find? name.toList <;> simp

theorem reads_iff_of_find? (found : entries.find? name.toList = some setting)
    {read : Setting → Read α} {result : α} :
    entries.Reads name read result ↔ read setting = .ok result := by
  rw [Reads, found]
  simp

/-- A value that is read is read as this one. -/
theorem Reads.iff_eq {read : Setting → Read α} {result other : α}
    (reads : entries.Reads name read result) :
    entries.Reads name read other ↔ other = result := by
  rcases reads with ⟨setting, found, equal⟩
  rw [reads_iff_of_find? found, equal, Except.ok.injEq, eq_comm]

/-- A value that may be nothing, under a name that may be absent. -/
theorem exists_field?_join_iff (found : entries.find? name.toList = some setting)
    {read : Setting → Read (Option α)} {result : Option α} :
    (∃ given, entries.field? name read = .ok given ∧ given.join = result) ↔
      read setting = .ok result := by
  rw [field?, found]
  simp only [map_eq_ok, mapError_eq_ok]
  constructor
  · rintro ⟨_, ⟨value, reads, rfl⟩, rfl⟩
    exact reads
  · intro reads
    exact ⟨some result, ⟨result, reads, rfl⟩, rfl⟩

end SettingTable

/-! ## Integers -/

namespace Setting

theorem whole_integer_eq_ok {origin : Origin} {value : Int} {number : Nat} :
    (Setting.plain origin (.integer value)).whole = .ok number ↔ (number : Int) = value := by
  rw [whole]
  split
  · next notNegative =>
      rw [Except.ok.injEq]
      omega
  · next negative =>
      constructor
      · intro equal
        cases equal
      · omega

theorem whole16_eq_ok {setting : Setting} {number : UInt16} :
    setting.whole16 = .ok number ↔ setting.whole = .ok number.toNat := by
  rw [whole16, bind_eq_ok]
  constructor
  · rintro ⟨value, whole, narrow⟩
    split at narrow
    · next fits =>
        cases narrow
        rw [whole, UInt16.toNat_ofNat_of_lt' fits]
    · cases narrow
  · intro whole
    refine ⟨number.toNat, whole, ?_⟩
    have fits : number.toNat < Whole.limit16 := number.toNat_lt
    rw [if_pos fits, UInt16.ofNat_toNat]

theorem whole32_eq_ok {setting : Setting} {number : UInt32} :
    setting.whole32 = .ok number ↔ setting.whole = .ok number.toNat := by
  rw [whole32, bind_eq_ok]
  constructor
  · rintro ⟨value, whole, narrow⟩
    split at narrow
    · next fits =>
        cases narrow
        rw [whole, UInt32.toNat_ofNat_of_lt' fits]
    · cases narrow
  · intro whole
    refine ⟨number.toNat, whole, ?_⟩
    have fits : number.toNat < Whole.limit32 := number.toNat_lt
    rw [if_pos fits, UInt32.ofNat_toNat]

theorem whole16_integer_eq_ok {origin : Origin} {value : Int} {number : UInt16} :
    (Setting.plain origin (.integer value)).whole16 = .ok number ↔ (number.toNat : Int) = value := by
  rw [whole16_eq_ok, whole_integer_eq_ok]

theorem whole32_integer_eq_ok {origin : Origin} {value : Int} {number : UInt32} :
    (Setting.plain origin (.integer value)).whole32 = .ok number ↔ (number.toNat : Int) = value := by
  rw [whole32_eq_ok, whole_integer_eq_ok]

/-- Nothing is checked here, since an integer of a document is below the limit. -/
theorem optionalWhole64_integer_eq_ok {origin : Origin} {value : Int} (fits : value < Whole.limit64)
    {result : Option UInt64} :
    (Setting.plain origin (.integer value)).optionalWhole64 = .ok result ↔
      ∃ number, result = some number ∧ (number.toNat : Int) = value := by
  rw [optionalWhole64, map_eq_ok]
  simp only [whole_integer_eq_ok]
  constructor
  · rintro ⟨number, equal, rfl⟩
    refine ⟨_, rfl, ?_⟩
    have fits : number < UInt64.size := by
      have size : Whole.limit64 = UInt64.size := rfl
      omega
    rw [UInt64.toNat_ofNat_of_lt' fits, equal]
  · rintro ⟨number, rfl, equal⟩
    exact ⟨number.toNat, equal, by rw [UInt64.ofNat_toNat]⟩
  · intro origin equal
    cases equal

end Setting

/-! ## Values of a file -/

/-- A reader that takes single values and lists, but no tables. -/
def RejectsTables (read : Setting → Read α) : Prop :=
  ∀ origin entries result, read (.table origin entries) ≠ .ok result

theorem rejectsTables_whole16 : RejectsTables Setting.whole16 := by
  intro origin entries result
  simp [Setting.whole16_eq_ok, Setting.whole]

theorem rejectsTables_whole32 : RejectsTables Setting.whole32 := by
  intro origin entries result
  simp [Setting.whole32_eq_ok, Setting.whole]

theorem rejectsTables_optionalWhole64 : RejectsTables Setting.optionalWhole64 := by
  intro origin entries result
  simp [Setting.optionalWhole64, Setting.whole]

theorem rejectsTables_string : RejectsTables Setting.string := by
  intro origin entries result
  simp [Setting.string]

theorem rejectsTables_ip : RejectsTables Setting.ip := by
  intro origin entries result
  simp [Setting.ip, Setting.string]

theorem rejectsTables_ipv4 : RejectsTables Setting.ipv4 := by
  intro origin entries result
  simp [Setting.ipv4, Setting.string]

/-- A value of a file that is read, unless it is not there. -/
def Suits (read : Setting → Read α) (origin : Origin) (value : Option Toml.Value) : Prop :=
  ∀ given ∈ value, ∃ result, read (.ofValue origin given) = .ok result

theorem suits_none {read : Setting → Read α} {origin : Origin} : Suits read origin none :=
  fun given member => absurd member (Option.not_mem_none given)

theorem suits_some {read : Setting → Read α} {origin : Origin} {given : Toml.Value} {result : α}
    (reads : read (.ofValue origin given) = .ok result) : Suits read origin (some given) := by
  intro other member
  cases member
  exact ⟨result, reads⟩

theorem Suits.not_table {read : Setting → Read α} (rejects : RejectsTables read)
    {origin : Origin} {given : Toml.Value} (suits : Suits read origin (some given))
    (form : Toml.TableForm) (entries : Toml.Entries) : given ≠ .table form entries := by
  rintro rfl
  rcases suits _ rfl with ⟨result, reads⟩
  rw [Setting.ofValue] at reads
  exact rejects origin _ result reads

/-- The value of a section that is read: a table that suits, or anything else that reads. -/
def SectionSuits (read : Setting → Read α) (suits : Toml.Entries → Prop) (origin : Origin) :
    Option Toml.Value → Prop
  | some (.table _ entries) => suits entries
  | value => Suits read origin value

section Laid

open Setting

variable {laid : SettingTable} {name : String} {below : Option Setting} {origin : Origin}
  {value : Option Toml.Value}

/-- What a table has under a name once a value of a file was laid over a default. -/
def Laid (laid : SettingTable) (name : String) (below : Option Setting) (origin : Origin)
    (value : Option Toml.Value) : Prop :=
  laid.find? name.toList = overlaid below ((value.map (.ofValue origin)).map (overlay none))

theorem Laid.find?_of_not_table {given : Toml.Value}
    (isLaid : Laid laid name below origin (some given))
    (notTable : ∀ form entries, given ≠ .table form entries) :
    laid.find? name.toList = some (.ofValue origin given) := by
  rw [isLaid]
  cases given with
  | table form entries => exact absurd rfl (notTable form entries)
  | _ => simp only [Option.map_some, overlaid, Setting.ofValue, overlay]

theorem Laid.reads_of_not_table {read : Setting → Read α} {given : Toml.Value}
    (isLaid : Laid laid name below origin (some given))
    (notTable : ∀ form entries, given ≠ .table form entries)
    (suits : Suits read origin (some given)) : ∃ result, laid.Reads name read result := by
  rcases suits given rfl with ⟨result, reads⟩
  exact ⟨result, _, isLaid.find?_of_not_table notTable, reads⟩

theorem Laid.reads_of_suits {read : Setting → Read α} (rejects : RejectsTables read)
    (isLaid : Laid laid name below origin value) (suits : Suits read origin value)
    {default : Setting} (isDefault : below = some default) {usual : α}
    (readsDefault : read default = .ok usual) : ∃ result, laid.Reads name read result := by
  cases value with
  | none =>
      rw [isDefault] at isLaid
      exact ⟨usual, default, isLaid, readsDefault⟩
  | some given => exact isLaid.reads_of_not_table (suits.not_table rejects) suits

theorem Laid.field?_of_suits {read : Setting → Read α} (rejects : RejectsTables read)
    (isLaid : Laid laid name none origin value) (suits : Suits read origin value) :
    ∃ result, laid.field? name read = .ok result := by
  cases value with
  | none => exact ⟨none, SettingTable.field?_of_none read isLaid⟩
  | some given =>
      rcases isLaid.reads_of_not_table (suits.not_table rejects) suits with ⟨result, reads⟩
      exact ⟨some result, SettingTable.field?_eq_ok_some.mpr reads⟩

theorem Laid.find?_integer {value : Int}
    (isLaid : Laid laid name below origin (some (.scalar (.integer value)))) :
    laid.find? name.toList = some (.plain origin (.integer value)) := by
  rw [isLaid.find?_of_not_table fun _ _ => Toml.Value.noConfusion, Setting.ofValue, Plain.ofScalar]

/-- A table of a file over a default table, seen from outside and by its keys. -/
theorem Laid.find?_table {form : Toml.TableForm} {entries : Toml.Entries}
    (isLaid : Laid laid name below origin (some (.table form entries)))
    {belowOrigin : Origin} {belowEntries : SettingTable}
    (place : below.getD .emptyTable = .table belowOrigin belowEntries) :
    ∃ inner, laid.find? name.toList = some (.table belowOrigin inner) ∧
      ∀ key value, Text.lower key.toList = key.toList → entries.Has key.toList value →
        Laid inner key (belowEntries.find? key.toList) origin value := by
  rcases Setting.overlay_table place origin (SettingTable.ordered_ofEntries origin entries) with
    ⟨inner, equal, holds⟩
  refine ⟨inner, ?_, ?_⟩
  · rw [isLaid]
    simp only [Option.map_some, Setting.overlaid, Setting.ofValue, equal]
  · intro key value isSmall has
    exact holds key.toList _ isSmall (SettingTable.has_ofEntries has origin)

theorem Laid.reads_section (isLaid : Laid laid name below origin value)
    {read : Setting → Read α} {suits : Toml.Entries → Prop}
    (isSuited : SectionSuits read suits origin value)
    {belowOrigin : Origin} {belowEntries : SettingTable}
    (isDefault : below = some (.table belowOrigin belowEntries))
    {usual : α} (readsDefault : read (.table belowOrigin belowEntries) = .ok usual)
    (readsTable : ∀ entries inner, suits entries →
      (∀ key value, Text.lower key.toList = key.toList → entries.Has key.toList value →
        Laid inner key (belowEntries.find? key.toList) origin value) →
      ∃ result, read (.table belowOrigin inner) = .ok result) :
    ∃ result, laid.Reads name read result := by
  cases value with
  | none =>
      rw [isDefault] at isLaid
      exact ⟨usual, _, isLaid, readsDefault⟩
  | some given =>
      cases given with
      | table form entries =>
          have place : below.getD .emptyTable = .table belowOrigin belowEntries := by
            rw [isDefault]
            rfl
          rcases isLaid.find?_table place with ⟨inner, found, holds⟩
          rcases readsTable entries inner isSuited holds with ⟨result, reads⟩
          exact ⟨result, _, found, reads⟩
      | scalar value =>
          exact isLaid.reads_of_not_table (fun _ _ => Toml.Value.noConfusion) isSuited
      | array items =>
          exact isLaid.reads_of_not_table (fun _ _ => Toml.Value.noConfusion) isSuited
      | tables elements =>
          exact isLaid.reads_of_not_table (fun _ _ => Toml.Value.noConfusion) isSuited

end Laid

end StubDns
