import StubDns.Proofs.Settings.Layering

/-! # Small keys

A key is made small where it is laid, at the root and below. So in settings that were made by
laying layers over one another, each table that is reached through tables has small keys, in
order and each of them once. What was in the layers does not matter for this: a table is not
taken over, but laid entry by entry.
-/

namespace StubDns

namespace Setting

/-! ## The property and its parts -/

/-- Tables have ascending keys in small letters, and so do the tables in them. Nothing is said
of tables in arrays. -/
inductive SmallKeys : Setting → Prop
  | plain (origin : Origin) (value : Plain) : SmallKeys (.plain origin value)
  | array (origin : Origin) (items : SettingList) : SmallKeys (.array origin items)
  | table (origin : Origin) {entries : SettingTable} (ordered : entries.Ordered)
      (small : ∀ key ∈ entries.keys, Text.lower key = key)
      (inner : ∀ key value, entries.find? key = some value → SmallKeys value) :
      SmallKeys (.table origin entries)

namespace SmallKeys

variable {setting below : Setting} {origin : Origin} {entries : SettingTable}

theorem nil (origin : Origin) : SmallKeys (.table origin .nil) := by
  apply SmallKeys.table origin .nil
  · intro key member
    cases member
  · intro key value found
    cases found

theorem ordered_table (holds : SmallKeys (.table origin entries)) : entries.Ordered := by
  cases holds with
  | table _ ordered small inner => exact ordered

theorem small_table (holds : SmallKeys (.table origin entries)) :
    ∀ key ∈ entries.keys, Text.lower key = key := by
  cases holds with
  | table _ ordered small inner => exact small

theorem find?_table (holds : SmallKeys (.table origin entries)) {key : Text} {value : Setting}
    (found : entries.find? key = some value) : value.SmallKeys := by
  cases holds with
  | table _ ordered small inner => exact inner key value found

theorem asTable (holds : setting.SmallKeys) (origin : Origin) :
    SmallKeys (.table origin setting.asTable.2) := by
  cases holds with
  | plain => exact nil origin
  | array => exact nil origin
  | table _ ordered small inner => exact .table origin ordered small inner

theorem under? (holds : setting.SmallKeys) {key : Text} {value : Setting}
    (found : setting.under? key = some value) : value.SmallKeys :=
  (holds.asTable none).find?_table found

theorem under?_of_not_small (holds : setting.SmallKeys) {name : Text}
    (notSmall : Text.lower name ≠ name) : setting.under? name = none := by
  cases found : setting.under? name with
  | none => rfl
  | some value =>
      have member := SettingTable.mem_keys_of_find? found
      exact absurd ((holds.asTable none).small_table name member) notSmall

/-! ## Laying -/

theorem insert (holds : below.SmallKeys) (key : Text) {value : Setting}
    (laid : value.SmallKeys) :
    SmallKeys (.table below.asTable.1 (below.asTable.2.insert (Text.lower key) value)) := by
  have table := holds.asTable none
  apply SmallKeys.table
  · exact table.ordered_table.insert (Text.lower key) value
  · intro other member
    rcases (SettingTable.mem_keys_insert _ _ _ _).mp member with here | before
    · rw [here, Text.lower_lower]
    · exact table.small_table other before
  · intro other otherValue found
    rw [SettingTable.find?_insert] at found
    split at found
    · cases found
      exact laid
    · exact table.find?_table found

mutual
theorem overlay {below : Option Setting} (holds : ∀ setting ∈ below, setting.SmallKeys) :
    (setting : Setting) → (setting.overlay below).SmallKeys
  | .plain origin value => by
      rw [Setting.overlay]
      exact .plain origin value
  | .array origin items => by
      rw [Setting.overlay]
      exact .array origin items
  | .table _ entries => by
      rw [Setting.overlay]
      apply overlayEntries entries
      cases below with
      | none => exact nil none
      | some setting => exact holds setting rfl

theorem overlayEntries :
    (entries : SettingTable) → {below : Setting} → below.SmallKeys →
      (Setting.overlayEntries below entries).SmallKeys
  | .nil, below, holds => by
      rw [overlayEntries_nil]
      exact holds
  | .cons key value rest, below, holds => by
      rw [overlayEntries_cons]
      apply overlayEntries rest
      apply holds.insert key
      exact overlay (fun _ => holds.under?) value
end

theorem layEntry (holds : below.SmallKeys) (entry : Text × Setting) :
    (Setting.layEntry below entry).SmallKeys :=
  holds.insert entry.1 (overlay (fun _ => holds.under?) entry.2)

theorem changeKey (holds : below.SmallKeys) (key : Text) {act : Setting → Setting}
    (keeps : ∀ inner : Setting, inner.SmallKeys → (act inner).SmallKeys) :
    (Setting.changeKey key act below).SmallKeys := by
  have inner : ((below.under? (Text.lower key)).getD .null).SmallKeys := by
    cases found : below.under? (Text.lower key) with
    | none => exact .plain none .null
    | some setting => exact holds.under? found
  exact holds.insert key (keeps _ inner)

/-- What is put behind a path does not matter, since it is laid and not taken over. -/
theorem place (value : Setting) {below : Setting} (holds : below.SmallKeys) :
    (steps : List Step) → steps ≠ [] → (Setting.place value steps below).SmallKeys
  | [], empty => absurd rfl empty
  | [.key key], _ => by
      rw [place_key]
      exact holds.layEntry (key, value)
  | [.position index], _ => .array _ _
  | .position index :: step :: steps, _ => .array _ _
  | .key key :: step :: steps, _ => by
      rw [place_keys]
      apply holds.changeKey key
      intro inner innerHolds
      exact place value innerHolds (step :: steps) (List.cons_ne_nil step steps)

theorem placeEntry (holds : below.SmallKeys) (entry : Text × Setting) :
    (Setting.placeEntry below entry).SmallKeys := by
  apply place entry.2 holds
  rw [stepsOf]
  split <;> exact List.cons_ne_nil _ _

theorem foldl {step : Setting → α → Setting}
    (keeps : ∀ (below : Setting) entry, below.SmallKeys → (step below entry).SmallKeys)
    (entries : List α) {below : Setting} (holds : below.SmallKeys) :
    (entries.foldl step below).SmallKeys := by
  induction entries generalizing below with
  | nil => exact holds
  | cons entry rest induction => exact induction (keeps below entry holds)

theorem layer (holds : below.SmallKeys) (entries : SettingTable) :
    (Setting.layer below entries).SmallKeys := by
  rw [layer_eq_foldl]
  exact .foldl (fun below entry holds => holds.placeEntry entry) entries.toList holds

end SmallKeys

theorem smallKeys_defaults (defaults : List Default) : (Default.settings defaults).SmallKeys := by
  rw [Default.settings]
  apply SmallKeys.foldl _ _ (SmallKeys.nil none)
  intro below default holds
  exact .place default.value holds _ (List.cons_ne_nil _ _)

/-- Whatever the defaults and the document are, the keys of what they make are small. -/
theorem smallKeys_merged (defaults : List Default) (document : SettingTable) :
    (merged defaults document).SmallKeys := (smallKeys_defaults defaults).layer _

end Setting

end StubDns
