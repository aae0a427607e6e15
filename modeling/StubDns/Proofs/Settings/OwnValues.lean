import StubDns.Proofs.Settings.SmallKeys

/-! # Own values of documents

A place is a list of names in small letters, one for each table on the way. A document has a
value of its own at a place, under keys in whatever case, or it has none. Laid over defaults
a document keeps its own values, and where it has none the default stays, at every place that
the document does not block: with something else than a table on the way to it, with a table
at the end of it, or with a key at the root that is the path to something else.
-/

namespace StubDns

/-! ## Places -/

/-- Walk from a value to a part of it, by one name after the other. -/
def walk (under? : α → Text → Option α) : List Text → α → Option α
  | [], value => some value
  | name :: place, value => (under? value name).bind (walk under? place)

/-- By names that are not small nothing is reached from values with small keys. -/
theorem walk_of_not_small {under? : α → Text → Option α} {smallKeys : α → Prop}
    (inner : ∀ {value name part}, smallKeys value → under? value name = some part → smallKeys part)
    (absent : ∀ {value name}, smallKeys value → Text.lower name ≠ name → under? value name = none)
    {place : List Text} (notSmall : ∃ name ∈ place, Text.lower name ≠ name) {value : α}
    (holds : smallKeys value) : walk under? place value = none := by
  induction place generalizing value with
  | nil =>
      rcases notSmall with ⟨name, member, _⟩
      cases member
  | cons first place induction =>
      rcases notSmall with ⟨name, member, different⟩
      rw [walk]
      cases member with
      | head =>
          rw [absent holds different]
          rfl
      | tail _ member =>
          cases found : under? value first with
          | none => rfl
          | some part => exact induction ⟨name, member, different⟩ (inner holds found)

namespace Toml

/-! ## Keys -/

namespace Entries

/-- The value of the first key that has a small form. -/
def spelled? (small : Text) : Entries → Option Value
  | .nil => none
  | .cons key value rest => if Text.lower key = small then some value else rest.spelled? small

/-- No two keys have the same small form. -/
def Distinct (entries : Entries) : Prop := (entries.keys.map Text.lower).Nodup

instance (entries : Entries) : Decidable entries.Distinct :=
  inferInstanceAs (Decidable (List.Nodup _))

theorem spelled?_cons_of_eq {key small : Text} (spelled : Text.lower key = small) (value : Value)
    (rest : Entries) : (Entries.cons key value rest).spelled? small = some value :=
  if_pos spelled

theorem spelled?_cons_of_ne {key small : Text} (different : Text.lower key ≠ small) (value : Value)
    (rest : Entries) : (Entries.cons key value rest).spelled? small = rest.spelled? small :=
  if_neg different

theorem Distinct.of_cons {key : Text} {value : Value} {rest : Entries}
    (distinct : (Entries.cons key value rest).Distinct) :
    (∀ other ∈ rest.keys, Text.lower other ≠ Text.lower key) ∧ rest.Distinct := by
  rcases List.nodup_cons.mp distinct with ⟨absent, restDistinct⟩
  refine ⟨?_, restDistinct⟩
  intro other member same
  exact absent (List.mem_map.mpr ⟨other, member, same⟩)

theorem has_spelled? (small : Text) :
    {entries : Entries} → entries.Distinct → entries.Has small (entries.spelled? small)
  | .nil, _ => fun key member => absurd member List.not_mem_nil
  | .cons key value rest, distinct => by
      rcases distinct.of_cons with ⟨apart, restDistinct⟩
      have has := has_spelled? small restDistinct
      by_cases spelled : Text.lower key = small
      · rw [spelled?_cons_of_eq spelled]
        refine ⟨key, List.mem_cons_self, spelled, if_pos rfl, ?_⟩
        intro other member same
        rcases List.mem_cons.mp member with equal | member
        · exact equal
        · exact absurd (same.trans spelled.symm) (apart other member)
      · rw [spelled?_cons_of_ne spelled]
        cases own : rest.spelled? small with
        | none =>
            rw [own] at has
            intro other member
            rcases List.mem_cons.mp member with equal | member
            · exact equal ▸ spelled
            · exact has other member
        | some inner =>
            rw [own] at has
            rcases has with ⟨other, member, same, found, unique⟩
            have different : key ≠ other := fun equal => spelled (equal ▸ same)
            refine ⟨other, List.mem_cons_of_mem key member, same, (if_neg different).trans found, ?_⟩
            intro third thirdMember thirdSame
            rcases List.mem_cons.mp thirdMember with equal | thirdMember
            · exact absurd (equal ▸ thirdSame) spelled
            · exact unique third thirdMember thirdSame

theorem lower_of_spelled? {small : Text} {value : Value} :
    {entries : Entries} → entries.spelled? small = some value → Text.lower small = small
  | .nil, found => by cases found
  | .cons key _ rest, found => by
      by_cases spelled : Text.lower key = small
      · rw [← spelled, Text.lower_lower]
      · rw [spelled?_cons_of_ne spelled] at found
        exact lower_of_spelled? found

end Entries

/-! ## Own values -/

namespace Value

def under? (value : Value) (name : Text) : Option Value :=
  match value with
  | .table _ entries => entries.spelled? name
  | _ => none

/-- The value that a value has at a place. -/
def at? (place : List Text) (value : Value) : Option Value := walk under? place value

theorem at?_cons (name : Text) (place : List Text) (value : Value) :
    value.at? (name :: place) = (value.under? name).bind (·.at? place) := rfl

theorem under?_of_not_small {name : Text} (notSmall : Text.lower name ≠ name) (value : Value) :
    value.under? name = none := by
  cases value with
  | table form entries =>
      change entries.spelled? name = none
      cases found : entries.spelled? name with
      | none => rfl
      | some inner => exact absurd (Entries.lower_of_spelled? found) notSmall
  | _ => rfl

theorem at?_of_not_small {place : List Text} (notSmall : ∃ name ∈ place, Text.lower name ≠ name)
    (value : Value) : value.at? place = none :=
  walk_of_not_small (fun _ _ => trivial) (fun _ different => under?_of_not_small different _)
    notSmall trivial

/-- Nothing stands in the way of a place: as far as the value goes, there are tables without
two spellings of a key on the way, and no table at the end. -/
def Clear : List Text → Value → Prop
  | [], .table .. => False
  | [], _ => True
  | name :: place, .table _ entries =>
      entries.Distinct ∧ ∀ inner ∈ entries.spelled? name, inner.Clear place
  | _ :: _, _ => False

instance decidableClear : (place : List Text) → (value : Value) → Decidable (value.Clear place)
  | [], .table .. => .isFalse id
  | [], .scalar _ | [], .array _ | [], .tables _ => .isTrue trivial
  | name :: place, .table _ entries =>
      letI := decidableClear place
      inferInstanceAs (Decidable (entries.Distinct ∧ ∀ inner ∈ entries.spelled? name, _))
  | _ :: _, .scalar _ | _ :: _, .array _ | _ :: _, .tables _ => .isFalse id

theorem Clear.exists_table {name : Text} {place : List Text} {value : Value}
    (clear : value.Clear (name :: place)) :
    ∃ form entries, value = .table form entries ∧ entries.Distinct ∧
      ∀ inner ∈ entries.spelled? name, inner.Clear place := by
  cases value with
  | table form entries => exact ⟨form, entries, rfl, clear⟩
  | _ => cases clear

end Value

namespace Entries

def at? (entries : Entries) (place : List Text) : Option Value :=
  (Value.table .opened entries).at? place

def Clear (entries : Entries) (place : List Text) : Prop :=
  (Value.table .opened entries).Clear place

theorem at?_cons (entries : Entries) (name : Text) (place : List Text) :
    entries.at? (name :: place) = (entries.spelled? name).bind (·.at? place) := rfl

instance (entries : Entries) (place : List Text) : Decidable (entries.Clear place) :=
  Value.decidableClear place (.table .opened entries)

theorem clear_cons_iff {entries : Entries} {name : Text} {place : List Text} :
    entries.Clear (name :: place) ↔
      entries.Distinct ∧ ∀ inner ∈ entries.spelled? name, inner.Clear place := Iff.rfl

end Entries

end Toml

namespace Setting

/-- The setting at a place. -/
def at? (place : List Text) (setting : Setting) : Option Setting := walk under? place setting

theorem at?_cons (setting : Setting) (name : Text) (place : List Text) :
    setting.at? (name :: place) = (setting.under? name).bind (·.at? place) := rfl

theorem at?_singleton (setting : Setting) (name : Text) :
    setting.at? [name] = setting.under? name := Option.bind_fun_some (setting.under? name)

theorem SmallKeys.at?_of_not_small {place : List Text}
    (notSmall : ∃ name ∈ place, Text.lower name ≠ name) {setting : Setting}
    (holds : setting.SmallKeys) : setting.at? place = none :=
  walk_of_not_small (fun holds => holds.under?) (fun holds => holds.under?_of_not_small) notSmall
    holds

/-! ## Laying a document -/

open Toml (Entries Value)

/-- A value laid over a place keeps its own values, and elsewhere what was there stays. -/
theorem at?_overlay {place : List Text} (small : ∀ name ∈ place, Text.lower name = name)
    {value : Value} (clear : value.Clear place) (origin : Origin) (below : Option Setting) :
    (overlay below (overlay none (.ofValue origin value))).at? place =
      ((value.at? place).map (.ofValue origin)).or (below.bind (·.at? place)) := by
  induction place generalizing value below with
  | nil =>
      cases value with
      | table form entries => cases clear
      | _ => simp only [Setting.ofValue, overlay, at?, Value.at?, walk, Option.map_some, Option.some_or]
  | cons name place induction =>
      rcases clear.exists_table with ⟨form, entries, rfl, distinct, inner⟩
      have has := SettingTable.has_ofEntries (Entries.has_spelled? name distinct) origin
      have found := under?_overlay below origin (SettingTable.ordered_ofEntries origin entries)
        (small name List.mem_cons_self) has
      rw [at?_cons, Setting.ofValue, found, Value.at?_cons, Value.under?]
      cases own : entries.spelled? name with
      | none => exact Option.bind_assoc below (·.under? name) (·.at? place)
      | some value =>
          have later := induction (fun other member => small other (List.mem_cons_of_mem name member))
            (inner value own) (below.bind (·.under? name))
          rw [Option.bind_assoc] at later
          exact later

/-! ### Keys at the root -/

/-- A key is the expression of a path: behind its root follow dots or brackets. -/
def isExpression (key : Text) : Bool :=
  match Path.read key with
  | .ok path => path.steps ≠ []
  | .error _ => false

/-- No key is the expression of a path, neither as it is written nor in small letters, in
which it is read a second time. -/
def NoPaths (keys : List Text) : Prop :=
  ∀ key ∈ keys, isExpression key = false ∧ isExpression (Text.lower key) = false

instance (keys : List Text) : Decidable (NoPaths keys) :=
  inferInstanceAs (Decidable (∀ _ ∈ _, _))

theorem readSteps_eq_nil {rounds : Nat} {rest : Text}
    (read : Path.readSteps rounds rest = .ok []) : rest = [] := by
  cases rest with
  | nil => rfl
  | cons char rest =>
      cases rounds with
      | zero => cases read
      | succ rounds =>
          rw [Path.readSteps] at read
          · split at read
            · cases read
            · split at read <;> cases read
          · exact List.cons_ne_nil char rest

/-- A key that is no expression is a path of itself, or none. -/
theorem read_of_no_expression {key : Text} (noExpression : isExpression key = false) {path : Path}
    (read : Path.read key = .ok path) : path = ⟨key, []⟩ := by
  have noSteps : path.steps = [] := by simpa [isExpression, read] using noExpression
  rcases exists_steps_of_read read with ⟨rest, split, readSteps⟩
  rcases path with ⟨root, steps⟩
  change steps = [] at noSteps
  subst noSteps
  rw [split, readSteps_eq_nil readSteps, List.append_nil]

theorem rootOf_of_no_expression {key : Text} (noExpression : isExpression key = false) :
    rootOf key = Text.lower key := by
  rw [rootOf]
  cases read : Path.read key with
  | error error => rfl
  | ok path => rw [read_of_no_expression noExpression read]

theorem stepsOf_of_no_expression {key : Text} (noExpression : isExpression key = false) :
    stepsOf key = [.key key] := by
  rw [stepsOf]
  cases read : Path.read key with
  | error error => rfl
  | ok path => rw [read_of_no_expression noExpression read]

theorem NoPaths.alone {keys : List Text} (noPaths : NoPaths keys) (small : Text) :
    Alone keys small := by
  intro key member different
  rcases noPaths key member with ⟨first, second⟩
  rw [rootOf_of_no_expression first, rootOf_of_no_expression second, Text.lower_lower]
  exact ⟨different, different⟩

/-- What a document over defaults has at a place: its own value if it has one there, and
otherwise the default. -/
theorem at?_merged (defaults : List Default) (origin : Origin) {entries : Entries}
    (noPaths : NoPaths entries.keys) {name : Text} {place : List Text} (isName : IsName name)
    (clear : entries.Clear (name :: place)) :
    (merged defaults (.ofEntries origin entries)).at? (name :: place) =
      ((entries.at? (name :: place)).map (.ofValue origin)).or
        ((Default.settings defaults).at? (name :: place)) := by
  by_cases small : ∀ other ∈ place, Text.lower other = other
  · rcases Entries.clear_cons_iff.mp clear with ⟨distinct, inner⟩
    have has := SettingTable.has_ofEntries (Entries.has_spelled? name distinct) origin
    have alone : Alone (SettingTable.ofEntries origin entries).keys name := by
      intro key member
      exact noPaths.alone name key ((SettingTable.mem_keys_ofEntries origin key entries).mp member)
    have found := under?_merged defaults (SettingTable.ordered_ofEntries origin entries) has isName
      alone
    rw [at?_cons, found, Entries.at?_cons, at?_cons]
    cases own : entries.spelled? name with
    | none => rfl
    | some value =>
        exact at?_overlay small (inner value own) origin ((Default.settings defaults).under? name)
  · -- No key on either side is spelled with a capital letter.
    have notSmall : ∃ other ∈ name :: place, Text.lower other ≠ other := by
      simp only [Classical.not_forall] at small
      rcases small with ⟨other, member, different⟩
      exact ⟨other, List.mem_cons_of_mem name member, different⟩
    rw [(smallKeys_merged _ _).at?_of_not_small notSmall, Entries.at?,
      Value.at?_of_not_small notSmall, (smallKeys_defaults _).at?_of_not_small notSmall]
    rfl

end Setting

/-! ## Documents written otherwise -/

namespace Toml.Entries

/-- A document is written otherwise: keys that no place lies behind come and go, the case of
keys changes, and so on in tables that places lie in. -/
inductive Varies : Entries → (List Text → Prop) → Entries → Prop
  | nil (places : List Text → Prop) : Varies .nil places .nil
  | added {places : List Text → Prop} {key : Text} {left right : Entries}
      (aside : ∀ place, ¬ places (Text.lower key :: place)) (value : Value)
      (rest : left.Varies places right) : left.Varies places (.cons key value right)
  | removed {places : List Text → Prop} {key : Text} {left right : Entries}
      (aside : ∀ place, ¬ places (Text.lower key :: place)) (value : Value)
      (rest : left.Varies places right) : (cons key value left).Varies places right
  | kept {places : List Text → Prop} {key other : Text} {left right : Entries}
      (same : Text.lower other = Text.lower key) (value : Value)
      (rest : left.Varies places right) :
      (cons key value left).Varies places (cons other value right)
  | inside {places : List Text → Prop} {key other : Text} {inner otherInner left right : Entries}
      (same : Text.lower other = Text.lower key) (notEnd : ¬ places [Text.lower key])
      (form otherForm : TableForm)
      (behind : inner.Varies (fun place => places (Text.lower key :: place)) otherInner)
      (rest : left.Varies places right) :
      (cons key (.table form inner) left).Varies places
        (cons other (.table otherForm otherInner) right)

theorem Varies.symm {places : List Text → Prop} {left right : Entries}
    (varies : left.Varies places right) : right.Varies places left := by
  induction varies with
  | nil places => exact .nil places
  | added aside value rest induction => exact .removed aside value induction
  | removed aside value rest induction => exact .added aside value induction
  | kept same value rest induction => exact .kept same.symm value induction
  | inside same notEnd form otherForm behind rest innerInduction induction =>
      rw [← same] at notEnd innerInduction
      exact .inside same.symm notEnd otherForm form innerInduction induction

/-- Documents that are the same but for their writing have the same own values. -/
theorem Varies.at?_eq {places : List Text → Prop} {left right : Entries}
    (varies : left.Varies places right) {name : Text} {place : List Text}
    (isPlace : places (name :: place)) : left.at? (name :: place) = right.at? (name :: place) := by
  induction varies generalizing name place with
  | nil => rfl
  | @added places key left right aside value rest induction =>
      have different : Text.lower key ≠ name := fun equal => aside place (equal ▸ isPlace)
      rw [induction isPlace, at?_cons, at?_cons, spelled?_cons_of_ne different]
  | @removed places key left right aside value rest induction =>
      have different : Text.lower key ≠ name := fun equal => aside place (equal ▸ isPlace)
      rw [← induction isPlace, at?_cons, at?_cons, spelled?_cons_of_ne different]
  | @kept places key other left right same value rest induction =>
      rw [at?_cons, at?_cons]
      by_cases spelled : Text.lower key = name
      · rw [spelled?_cons_of_eq spelled, spelled?_cons_of_eq (same.trans spelled)]
      · rw [spelled?_cons_of_ne spelled, spelled?_cons_of_ne (same ▸ spelled)]
        exact induction isPlace
  | @inside places key other inner otherInner left right same notEnd form otherForm behind rest
      innerInduction induction =>
      rw [at?_cons, at?_cons]
      by_cases spelled : Text.lower key = name
      · subst spelled
        rw [spelled?_cons_of_eq rfl, spelled?_cons_of_eq same]
        cases place with
        | nil => exact absurd isPlace notEnd
        | cons next place => exact innerInduction isPlace
      · rw [spelled?_cons_of_ne spelled, spelled?_cons_of_ne (same ▸ spelled)]
        exact induction isPlace

end Toml.Entries

end StubDns
