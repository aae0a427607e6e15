import Mathlib.Data.List.Pairwise
import StubDns.Proofs.Settings.OwnValues

/-! # Values put in their places

A plain value is put at a place by a list of small names, and tables are made on the way. Places
apart from each other, of which none lies on the way to the other, do not disturb one another: the
order in which two of them are given values does not matter, not even for the tables that both
need. So what values leave that are put into an empty table is known in full: the values, the
tables on the way to them, and nothing else.
-/

namespace StubDns

namespace Setting

/-! ## One key -/

/-- A setting as a table in which a key has a value. -/
def withKey (below : Setting) (key : Text) (value : Setting) : Setting :=
  .table below.asTable.1 (below.asTable.2.insert key value)

theorem under?_withKey (below : Setting) (key other : Text) (value : Setting) :
    (below.withKey key value).under? other =
      if key = other then some value else below.under? other :=
  SettingTable.find?_insert key other value below.asTable.2

theorem withKey_withKey (below : Setting) (key : Text) (value last : Setting) :
    (below.withKey key value).withKey key last = below.withKey key last := by
  change Setting.table _ ((below.asTable.2.insert key value).insert key last) = _
  rw [SettingTable.insert_insert]
  rfl

theorem withKey_comm {key other : Text} (different : key ≠ other)
    (below value otherValue : Setting) :
    (below.withKey key value).withKey other otherValue =
      (below.withKey other otherValue).withKey key value := by
  change Setting.table _ ((below.asTable.2.insert key value).insert other otherValue) = _
  rw [SettingTable.insert_comm different]
  rfl

/-! ## One place -/

/-- Put a plain value at a place. -/
def put (names : List Text) (value : Plain) (below : Setting) : Setting :=
  place (.plain none value) (names.map .key) below

theorem put_cons {name : Text} (small : Text.lower name = name) (names : List Text)
    (value : Plain) (below : Setting) :
    put (name :: names) value below =
      below.withKey name (put names value ((below.under? name).getD .null)) := by
  cases names with
  | nil =>
      rw [put, List.map_cons, List.map_nil, place_key, layEntry, small, overlay]
      rfl
  | cons next names =>
      rw [put, List.map_cons, List.map_cons, place_keys, changeKey, small]
      rfl

/-- Neither place lies on the way to the other one. -/
def Apart (left right : List Text) : Prop := ¬ left <+: right ∧ ¬ right <+: left

instance (left right : List Text) : Decidable (Apart left right) :=
  inferInstanceAs (Decidable (¬ _ ∧ ¬ _))

theorem Apart.symm {left right : List Text} (apart : Apart left right) : Apart right left :=
  ⟨apart.2, apart.1⟩

theorem Apart.of_cons {name : Text} {left right : List Text}
    (apart : Apart (name :: left) (name :: right)) : Apart left right := by
  refine ⟨fun front => apart.1 ?_, fun front => apart.2 ?_⟩
  · exact (List.prefix_cons_inj name).mpr front
  · exact (List.prefix_cons_inj name).mpr front

/-- A place of settings, as names. -/
def IsPlace (names : List Text) : Prop := ∀ name ∈ names, Text.lower name = name

theorem IsPlace.of_cons {name : Text} {names : List Text} (isPlace : IsPlace (name :: names)) :
    Text.lower name = name ∧ IsPlace names := List.forall_mem_cons.mp isPlace

/-- The order in which two places are given values does not matter. -/
theorem put_comm {left right : List Text} (leftPlace : IsPlace left) (rightPlace : IsPlace right)
    (apart : Apart left right) (value otherValue : Plain) (below : Setting) :
    put right otherValue (put left value below) = put left value (put right otherValue below) := by
  induction left generalizing right below with
  | nil => exact absurd (List.nil_prefix) apart.1
  | cons name left induction =>
      cases right with
      | nil => exact absurd (List.nil_prefix) apart.2
      | cons other right =>
          rcases leftPlace.of_cons with ⟨small, leftRest⟩
          rcases rightPlace.of_cons with ⟨otherSmall, rightRest⟩
          rw [put_cons small, put_cons otherSmall, put_cons otherSmall, put_cons small,
            under?_withKey, under?_withKey]
          -- Two places share tables as far as their names are the same, and go apart there.
          by_cases equal : name = other
          · subst equal
            rw [if_pos rfl, if_pos rfl, withKey_withKey, withKey_withKey, Option.getD_some,
              Option.getD_some, induction leftRest rightRest apart.of_cons]
          · rw [if_neg equal, if_neg (Ne.symm equal), withKey_comm equal]

/-! ### What is there then -/

theorem getD_at?_getD (place : List Text) (below : Option Setting) :
    ((below.getD .null).at? place).getD .null = (below.bind (·.at? place)).getD .null := by
  cases below with
  | some setting => rfl
  | none => cases place <;> rfl

theorem at?_getD_null {place : List Text} (nonempty : place ≠ []) (below : Option Setting) :
    (below.getD .null).at? place = below.bind (·.at? place) := by
  cases below with
  | some setting => rfl
  | none =>
      cases place with
      | nil => exact absurd rfl nonempty
      | cons name place => rfl

section Put

variable {names : List Text} (isPlace : IsPlace names) (value : Plain) (below : Setting)

include isPlace

theorem at?_put_append (more : List Text) :
    (put names value below).at? (names ++ more) = (Setting.plain none value).at? more := by
  induction names generalizing below with
  | nil => rfl
  | cons name names induction =>
      rcases isPlace.of_cons with ⟨small, rest⟩
      rw [put_cons small, List.cons_append, at?_cons, under?_withKey, if_pos rfl, Option.bind_some,
        induction rest]

theorem at?_put_of_apart {place : List Text} (apart : Apart names place) :
    (put names value below).at? place = below.at? place := by
  induction names generalizing below place with
  | nil => exact absurd List.nil_prefix apart.1
  | cons name names induction =>
      cases place with
      | nil => exact absurd List.nil_prefix apart.2
      | cons other place =>
          rcases isPlace.of_cons with ⟨small, rest⟩
          rw [put_cons small, at?_cons, at?_cons, under?_withKey]
          split
          · next equal =>
              subst equal
              have inside : place ≠ [] := by
                intro empty
                rw [empty] at apart
                exact apart.of_cons.2 List.nil_prefix
              rw [Option.bind_some, induction rest _ apart.of_cons, at?_getD_null inside]
          · rfl

end Put

/-- On the way to a place are tables: those that were there, or new ones. -/
theorem at?_put_front {front back : List Text} {name : Text}
    (isPlace : IsPlace (front ++ name :: back)) (value : Plain) (below : Setting) :
    ∃ entries, (put (front ++ name :: back) value below).at? front =
      some (.table ((below.at? front).getD .null).asTable.1 entries) := by
  induction front generalizing below with
  | nil =>
      rw [List.nil_append, put_cons isPlace.of_cons.1]
      exact ⟨_, rfl⟩
  | cons first front induction =>
      rcases isPlace.of_cons with ⟨small, rest⟩
      rcases induction rest ((below.under? first).getD .null) with ⟨entries, found⟩
      refine ⟨entries, ?_⟩
      rw [List.cons_append, put_cons small, at?_cons, at?_cons, under?_withKey, if_pos rfl,
        Option.bind_some, found, getD_at?_getD]

/-! ## Many places -/

/-- Values with places of which none lies on the way to another one. -/
structure Separate (given : List (List Text × Plain)) : Prop where
  nonempty : ∀ entry ∈ given, entry.1 ≠ []
  isPlace : ∀ entry ∈ given, IsPlace entry.1
  apart : given.Pairwise fun left right => Apart left.1 right.1

/-- Put values in their places, one after the other. -/
def putAll (given : List (List Text × Plain)) (below : Setting) : Setting :=
  given.foldl (fun below entry => put entry.1 entry.2 below) below

theorem Separate.put_comm {given : List (List Text × Plain)} (separate : Separate given)
    {left right : List Text × Plain} (leftMember : left ∈ given) (rightMember : right ∈ given)
    (below : Setting) :
    put right.1 right.2 (put left.1 left.2 below) = put left.1 left.2 (put right.1 right.2 below) := by
  by_cases equal : left = right
  · rw [equal]
  · have symmetric : Std.Symm fun left right : List Text × Plain => Apart left.1 right.1 :=
      ⟨fun _ _ => Apart.symm⟩
    have apart : Apart left.1 right.1 := separate.apart.forall leftMember rightMember equal
    exact Setting.put_comm (separate.isPlace left leftMember) (separate.isPlace right rightMember)
      apart left.2 right.2 below

/-- Settings are made of values, each at its place, and the tables on the way to them. -/
structure Consists (given : List (List Text × Plain)) (settings : Setting) : Prop where
  value : ∀ entry ∈ given, settings.at? entry.1 = some (.plain none entry.2)
  table : ∀ place part, settings.at? place = some part → place ∉ given.map (·.1) →
    (∃ entries, part = .table none entries) ∧
      (place = [] ∨ ∃ entry ∈ given, place <+: entry.1)
  keys : settings.SmallKeys

namespace Consists

theorem empty : Consists [] emptyTable where
  value := List.forall_mem_nil _
  table place part found _ := by
    cases place with
    | nil =>
        cases found
        exact ⟨⟨.nil, rfl⟩, .inl rfl⟩
    | cons name place => cases found
  keys := .nil none

section Put

variable {given : List (List Text × Plain)} {below : Setting} {names : List Text}
  (consists : Consists given below) (isPlace : IsPlace names)
  (apart : ∀ entry ∈ given, Apart entry.1 names) (value : Plain)

include consists isPlace apart

/-- What is on the way to a new place is a table, and stays one. -/
theorem table_put_front {front back : List Text} {name : Text} (split : names = front ++ name :: back) :
    ∃ entries, (put names value below).at? front = some (.table none entries) := by
  have none_origin : ((below.at? front).getD .null).asTable.1 = none := by
    cases found : below.at? front with
    | none => rfl
    | some part =>
        have absent : front ∉ given.map (·.1) := by
          intro member
          rcases List.mem_map.mp member with ⟨entry, entryMember, equal⟩
          apply (apart entry entryMember).1
          rw [equal, split]
          exact List.prefix_append front (name :: back)
        rcases (consists.table front part found absent).1 with ⟨entries, equal⟩
        rw [equal]
        rfl
  subst split
  rcases at?_put_front isPlace value below with ⟨entries, found⟩
  rw [none_origin] at found
  exact ⟨entries, found⟩

theorem put (nonempty : names ≠ []) :
    Consists (given ++ [(names, value)]) (Setting.put names value below) where
  value entry member := by
    rcases List.mem_append.mp member with before | new
    · rw [at?_put_of_apart isPlace value below (apart entry before).symm]
      exact consists.value entry before
    · rw [List.mem_singleton.mp new]
      have found := at?_put_append isPlace value below []
      rw [List.append_nil] at found
      exact found
  table place part found absent := by
    rw [List.map_append, List.mem_append, not_or] at absent
    have different : place ≠ names := fun equal => absent.2 (List.mem_singleton.mpr equal)
    by_cases behind : names <+: place
    · -- A plain value has no parts.
      rcases behind with ⟨more, rfl⟩
      rw [at?_put_append isPlace] at found
      cases more with
      | nil => exact absurd (List.append_nil names) different
      | cons next more => cases found
    · by_cases before : place <+: names
      · rcases before with ⟨back, split⟩
        cases back with
        | nil => exact absurd ((List.append_nil place).symm.trans split) different
        | cons name back =>
            rcases consists.table_put_front isPlace apart value split.symm with ⟨entries, isTable⟩
            rw [isTable] at found
            cases found
            refine ⟨⟨entries, rfl⟩, .inr ⟨(names, value), ?_, ?_⟩⟩
            · exact List.mem_append_right given List.mem_cons_self
            · exact ⟨name :: back, split⟩
      · rw [at?_put_of_apart isPlace value below ⟨behind, before⟩] at found
        rcases consists.table place part found absent.1 with ⟨isTable, root | ⟨entry, member, front⟩⟩
        · exact ⟨isTable, .inl root⟩
        · exact ⟨isTable, .inr ⟨entry, List.mem_append_left _ member, front⟩⟩
  keys := consists.keys.place _ _ (by simpa using nonempty)

end Put

theorem putAll {done given : List (List Text × Plain)} {below : Setting}
    (consists : Consists done below) (separate : Separate (done ++ given)) :
    Consists (done ++ given) (Setting.putAll given below) := by
  induction given generalizing done below with
  | nil =>
      rw [List.append_nil]
      exact consists
  | cons entry rest induction =>
      have member : entry ∈ done ++ entry :: rest :=
        List.mem_append_right done List.mem_cons_self
      have apart : ∀ other ∈ done, Apart other.1 entry.1 := fun other before =>
        (List.pairwise_append.mp separate.apart).2.2 other before entry List.mem_cons_self
      have next := consists.put (separate.isPlace entry member) apart entry.2
        (separate.nonempty entry member)
      rw [List.append_cons] at separate ⊢
      exact induction next separate

end Consists

theorem Separate.consists {given : List (List Text × Plain)} (separate : Separate given) :
    Consists given (putAll given emptyTable) := Consists.empty.putAll separate

end Setting

end StubDns
