import StubDns.Settings.Tree
import StubDns.Text.Lowercase

/-! # Tables of settings

A table is seen through its keys and through looking them up. Keys can be given values in
any order. The keys of a table ascend, also where it is made from the entries of a document,
so that no key is there twice. What a table has under a name in small letters is the value
of the one key that is spelled so, in whatever case.
-/

namespace StubDns

/-! ## Spellings -/

/-- One key and no other has the small form `small`, and it is found with the value; or
no key has this small form. -/
def Spelled (keys : List Text) (find? : Text → Option α) (small : Text) : Option α → Prop
  | none => ∀ key ∈ keys, Text.lower key ≠ small
  | some value => ∃ key ∈ keys, Text.lower key = small ∧ find? key = some value ∧
      ∀ other ∈ keys, Text.lower other = small → other = key

instance [DecidableEq α] (keys : List Text) (find? : Text → Option α) (small : Text) :
    (value : Option α) → Decidable (Spelled keys find? small value)
  | none => inferInstanceAs (Decidable (∀ _ ∈ _, _))
  | some _ => inferInstanceAs (Decidable (∃ _ ∈ _, _))

theorem Spelled.map {keys otherKeys : List Text} {find? : Text → Option α}
    {otherFind? : Text → Option β} {small : Text} {value : Option α} {transform : α → β}
    (spelled : Spelled keys find? small value)
    (sameKeys : ∀ key, key ∈ otherKeys ↔ key ∈ keys)
    (found : ∀ key, otherFind? key = (find? key).map transform) :
    Spelled otherKeys otherFind? small (value.map transform) := by
  cases value with
  | none =>
      intro key member
      exact spelled key ((sameKeys key).mp member)
  | some value =>
      rcases spelled with ⟨key, member, small, equal, unique⟩
      refine ⟨key, (sameKeys key).mpr member, small, ?_, ?_⟩
      · rw [found, equal]
        rfl
      · intro other otherMember
        exact unique other ((sameKeys other).mp otherMember)

namespace SettingTable

/-! ## Keys -/

def keys (entries : SettingTable) : List Text := entries.toList.map (·.1)

/-- The table has one spelling of a key, with a value; or none. -/
def Has (entries : SettingTable) (small : Text) (value : Option Setting) : Prop :=
  Spelled entries.keys entries.find? small value

theorem keys_cons (key : Text) (value : Setting) (rest : SettingTable) :
    (SettingTable.cons key value rest).keys = key :: rest.keys := rfl

theorem mem_keys_insert (key other : Text) (value : Setting) :
    (entries : SettingTable) →
      (other ∈ (entries.insert key value).keys ↔ other = key ∨ other ∈ entries.keys)
  | .nil => by simp [insert, keys, toList]
  | .cons first old rest => by
      rw [insert]
      split
      · next present => simp [keys_cons, present]
      · split
        · simp [keys_cons]
        · simp [keys_cons, mem_keys_insert key other value rest, or_left_comm]

theorem mem_toList_of_mem_insert {key : Text} {value : Setting} {entry : Text × Setting} :
    {entries : SettingTable} → entry ∈ (entries.insert key value).toList →
      entry = (key, value) ∨ entry ∈ entries.toList
  | .nil, member => by simpa [insert, toList] using member
  | .cons first old rest, member => by
      rw [insert] at member
      split at member
      · rcases List.mem_cons.mp member with here | later
        · exact .inl here
        · exact .inr (List.mem_cons_of_mem _ later)
      · split at member
        · rcases List.mem_cons.mp member with here | later
          · exact .inl here
          · exact .inr later
        · rcases List.mem_cons.mp member with here | later
          · exact .inr (here ▸ List.mem_cons_self)
          · rcases mem_toList_of_mem_insert later with new | before
            · exact .inl new
            · exact .inr (List.mem_cons_of_mem _ before)

theorem find?_eq_none_iff (key : Text) :
    (entries : SettingTable) → (entries.find? key = none ↔ key ∉ entries.keys)
  | .nil => by simp [find?, keys, toList]
  | .cons first old rest => by
      rw [find?, keys_cons, List.mem_cons]
      split
      · next here => simp [here]
      · next apart => simp [find?_eq_none_iff key rest, Ne.symm apart]

/-! ## Values given one after the other -/

section Insert

variable {key first : Text} (value old : Setting) (rest : SettingTable)

theorem insert_cons_self : (cons key old rest).insert key value = cons key value rest := if_pos rfl

theorem insert_cons_of_lt (before : key < first) :
    (cons first old rest).insert key value = cons key value (cons first old rest) := by
  have different : first ≠ key := by
    intro equal
    rw [equal] at before
    exact List.lt_irrefl key before
  rw [insert, if_neg different, if_pos before]

theorem insert_cons_of_gt (behind : first < key) :
    (cons first old rest).insert key value = cons first old (rest.insert key value) := by
  have different : first ≠ key := by
    intro equal
    rw [equal] at behind
    exact List.lt_irrefl key behind
  rw [insert, if_neg different, if_neg (List.lt_asymm behind)]

end Insert

theorem lt_trichotomy (left right : Text) : left < right ∨ left = right ∨ right < left := by
  by_cases before : left < right
  · exact .inl before
  · by_cases behind : right < left
    · exact .inr (.inr behind)
    · exact .inr (.inl (List.le_antisymm (List.not_lt.mp behind) (List.not_lt.mp before)))

/-- Of two values that a key is given the last one counts. -/
theorem insert_insert (key : Text) (value last : Setting) :
    (entries : SettingTable) → (entries.insert key value).insert key last = entries.insert key last
  | .nil => insert_cons_self last value .nil
  | .cons first old rest => by
      rcases lt_trichotomy key first with before | equal | behind
      · rw [insert_cons_of_lt value old rest before, insert_cons_of_lt last old rest before,
          insert_cons_self]
      · subst equal
        rw [insert_cons_self, insert_cons_self, insert_cons_self]
      · rw [insert_cons_of_gt value old rest behind, insert_cons_of_gt last old rest behind,
          insert_cons_of_gt last old _ behind, insert_insert key value last rest]

theorem insert_insert_of_lt {key other : Text} (before : key < other)
    (value otherValue : Setting) :
    (entries : SettingTable) → (entries.insert key value).insert other otherValue =
      (entries.insert other otherValue).insert key value
  | .nil => by
      rw [insert, insert, insert_cons_of_gt otherValue value .nil before,
        insert_cons_of_lt value otherValue .nil before, insert]
  | .cons first old rest => by
      rcases lt_trichotomy key first with keyBefore | equal | keyBehind
      · -- The other key stays behind the first place, whether it is there or not.
        rw [insert_cons_of_lt value old rest keyBefore, insert_cons_of_gt otherValue value _ before]
        rcases lt_trichotomy other first with otherBefore | equal | otherBehind
        · rw [insert_cons_of_lt otherValue old rest otherBefore, insert_cons_of_lt value _ _ before]
        · subst equal
          rw [insert_cons_self, insert_cons_of_lt value otherValue rest before]
        · rw [insert_cons_of_gt otherValue old rest otherBehind,
            insert_cons_of_lt value old _ keyBefore]
      · subst equal
        rw [insert_cons_self, insert_cons_of_gt otherValue value rest before,
          insert_cons_of_gt otherValue old rest before, insert_cons_self]
      · have behind := List.lt_trans keyBehind before
        rw [insert_cons_of_gt value old rest keyBehind, insert_cons_of_gt otherValue old _ behind,
          insert_cons_of_gt otherValue old rest behind, insert_cons_of_gt value old _ keyBehind,
          insert_insert_of_lt before value otherValue rest]

/-- The order in which two keys are given values does not matter. -/
theorem insert_comm {key other : Text} (different : key ≠ other) (value otherValue : Setting)
    (entries : SettingTable) : (entries.insert key value).insert other otherValue =
      (entries.insert other otherValue).insert key value := by
  rcases lt_trichotomy key other with before | equal | behind
  · exact insert_insert_of_lt before value otherValue entries
  · exact absurd equal different
  · exact (insert_insert_of_lt behind otherValue value entries).symm

/-! ## Order -/

/-- The keys ascend. -/
def Ordered (entries : SettingTable) : Prop := entries.keys.Pairwise (· < ·)

theorem Ordered.nil : Ordered .nil := List.Pairwise.nil

theorem ordered_cons_iff {key : Text} {value : Setting} {rest : SettingTable} :
    (SettingTable.cons key value rest).Ordered ↔
      (∀ other ∈ rest.keys, key < other) ∧ rest.Ordered :=
  List.pairwise_cons

theorem Ordered.ne_of_mem {key other : Text} {value : Setting} {rest : SettingTable}
    (ordered : (SettingTable.cons key value rest).Ordered) (member : other ∈ rest.keys) :
    key ≠ other := by
  intro equal
  have before := (ordered_cons_iff.mp ordered).1 other member
  rw [equal] at before
  exact List.lt_irrefl other before

theorem Ordered.insert (key : Text) (value : Setting) :
    {entries : SettingTable} → entries.Ordered → (entries.insert key value).Ordered
  | .nil, _ => ordered_cons_iff.mpr ⟨fun _ member => absurd member List.not_mem_nil, .nil⟩
  | .cons first old rest, ordered => by
      rcases ordered_cons_iff.mp ordered with ⟨above, restOrdered⟩
      rcases lt_trichotomy key first with before | equal | behind
      · rw [insert_cons_of_lt value old rest before]
        refine ordered_cons_iff.mpr ⟨?_, ordered⟩
        intro other member
        rcases List.mem_cons.mp member with equal | member
        · exact equal ▸ before
        · exact List.lt_trans before (above other member)
      · subst equal
        rw [insert_cons_self]
        exact ordered_cons_iff.mpr ⟨above, restOrdered⟩
      · rw [insert_cons_of_gt value old rest behind]
        refine ordered_cons_iff.mpr ⟨?_, restOrdered.insert key value⟩
        intro other member
        rcases (mem_keys_insert key other value rest).mp member with equal | member
        · exact equal ▸ behind
        · exact above other member

theorem Ordered.nodup_keys {entries : SettingTable} (ordered : entries.Ordered) :
    entries.keys.Nodup := by
  apply List.Pairwise.imp _ ordered
  intro key other before equal
  rw [equal] at before
  exact List.lt_irrefl other before

theorem mem_keys_of_find? {key : Text} {value : Setting} {entries : SettingTable}
    (found : entries.find? key = some value) : key ∈ entries.keys := by
  apply Classical.byContradiction
  intro absent
  rw [(find?_eq_none_iff key entries).mpr absent] at found
  cases found

theorem find?_cons_self (key : Text) (value : Setting) (rest : SettingTable) :
    (SettingTable.cons key value rest).find? key = some value := if_pos rfl

/-- What is found in an ordered table is under its first key or under a later one. -/
theorem Ordered.eq_or_lt_of_find? {key other : Text} {value found : Setting} {rest : SettingTable}
    (ordered : (SettingTable.cons key value rest).Ordered)
    (isFound : (SettingTable.cons key value rest).find? other = some found) :
    other = key ∨ key < other := by
  rcases List.mem_cons.mp (mem_keys_of_find? isFound) with here | later
  · exact .inl here
  · exact .inr ((ordered_cons_iff.mp ordered).1 other later)

/-- Ordered tables in which the same is found are the same. -/
theorem Ordered.ext :
    {left right : SettingTable} → left.Ordered → right.Ordered →
      (∀ key, left.find? key = right.find? key) → left = right
  | .nil, .nil, _, _, _ => rfl
  | .nil, .cons key value rest, _, _, same => by
      have found := same key
      rw [find?_cons_self] at found
      cases found
  | .cons key value rest, .nil, _, _, same => by
      have found := same key
      rw [find?_cons_self] at found
      cases found
  | .cons key value rest, .cons other otherValue otherRest, leftOrdered, rightOrdered, same => by
      have here := (same key).symm.trans (find?_cons_self key value rest)
      have there := (same other).trans (find?_cons_self other otherValue otherRest)
      have equal : key = other := by
        rcases rightOrdered.eq_or_lt_of_find? here with equal | above
        · exact equal
        · rcases leftOrdered.eq_or_lt_of_find? there with equal | below
          · exact equal.symm
          · exact absurd (List.lt_trans above below) (List.lt_irrefl other)
      subst equal
      rw [find?_cons_self] at here
      cases here
      have restOrdered := (ordered_cons_iff.mp leftOrdered).2
      have otherOrdered := (ordered_cons_iff.mp rightOrdered).2
      have rest : ∀ third, rest.find? third = otherRest.find? third := by
        intro third
        by_cases first : key = third
        · subst first
          rw [(find?_eq_none_iff key rest).mpr fun member => leftOrdered.ne_of_mem member rfl,
            (find?_eq_none_iff key otherRest).mpr fun member => rightOrdered.ne_of_mem member rfl]
        · have behind := same third
          rw [find?, find?, if_neg first, if_neg first] at behind
          exact behind
      rw [restOrdered.ext otherOrdered rest]

/-- A key of an ordered table is found at one place. -/
theorem exists_split {key : Text} {value : Setting} :
    {entries : SettingTable} → entries.Ordered → entries.find? key = some value →
      ∃ front back, entries.toList = front ++ (key, value) :: back ∧
        ∀ entry ∈ front ++ back, entry.1 ≠ key
  | .nil, _, found => by cases found
  | .cons first old rest, ordered, found => by
      rw [find?] at found
      split at found
      · next here =>
          cases found
          refine ⟨[], rest.toList, by rw [here]; rfl, ?_⟩
          intro entry member equal
          have later : entry.1 ∈ rest.keys := List.mem_map.mpr ⟨entry, member, rfl⟩
          exact ordered.ne_of_mem later (here.trans equal.symm)
      · next apart =>
          have restOrdered := (ordered_cons_iff.mp ordered).2
          rcases exists_split restOrdered found with ⟨front, back, split, others⟩
          refine ⟨(first, old) :: front, back, by rw [toList, split]; rfl, ?_⟩
          intro entry member
          rcases List.mem_cons.mp member with equal | member
          · rw [equal]
            exact apart
          · exact others entry member

end SettingTable

/-! ## Entries of a document -/

namespace Toml.Entries

def keys : Entries → List Text
  | .nil => []
  | .cons key _ rest => key :: rest.keys

/-- The entries have one spelling of a key, with a value; or none. -/
def Has (entries : Entries) (small : Text) (value : Option Value) : Prop :=
  Spelled entries.keys entries.find? small value

instance (entries : Entries) (small : Text) (value : Option Value) :
    Decidable (entries.Has small value) :=
  inferInstanceAs (Decidable (Spelled _ _ _ _))

end Toml.Entries

namespace SettingTable

open Toml (Entries)

theorem mem_keys_ofEntries (origin : Origin) (key : Text) :
    (entries : Entries) → (key ∈ (ofEntries origin entries).keys ↔ key ∈ entries.keys)
  | .nil => by simp [ofEntries, keys, toList, Entries.keys]
  | .cons first value rest => by
      rw [ofEntries, mem_keys_insert, mem_keys_ofEntries origin key rest, Entries.keys,
        List.mem_cons]

theorem ordered_ofEntries (origin : Origin) :
    (entries : Entries) → (ofEntries origin entries).Ordered
  | .nil => by
      rw [ofEntries]
      exact .nil
  | .cons first value rest => by
      rw [ofEntries]
      exact (ordered_ofEntries origin rest).insert first (.ofValue origin value)

theorem find?_ofEntries (origin : Origin) (key : Text) :
    (entries : Entries) →
      (ofEntries origin entries).find? key = (entries.find? key).map (.ofValue origin)
  | .nil => by
      rw [ofEntries]
      rfl
  | .cons first value rest => by
      rw [ofEntries, find?_insert, Entries.find?, find?_ofEntries origin key rest]
      split <;> rfl

theorem has_ofEntries {entries : Entries} {small : Text} {value : Option Toml.Value}
    (has : entries.Has small value) (origin : Origin) :
    (ofEntries origin entries).Has small (value.map (.ofValue origin)) :=
  Spelled.map has (fun key => mem_keys_ofEntries origin key entries)
    (fun key => find?_ofEntries origin key entries)

end SettingTable

end StubDns
