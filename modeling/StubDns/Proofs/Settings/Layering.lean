import StubDns.Proofs.Settings.Tables
import StubDns.Proofs.Text.SmallLetters
import StubDns.Settings.Layers

/-! # What layers leave

Both ways to lay entries over a setting go through the entries one by one, and each
entry changes what is there under one key. So what is there in the end under a name is
what was there before, with the value of the one entry laid over it that is spelled
like the name. A document goes through this twice, first over nothing and then over the
defaults; the second time its keys are small, and its values are what they were.
-/

namespace StubDns

namespace Setting

/-! ## Entries one by one -/

/-- What a setting has under a key. -/
def under? (setting : Setting) (key : Text) : Option Setting := setting.asTable.2.find? key

/-- A value laid over a place, if there is one. -/
def overlaid (below : Option Setting) : Option Setting → Option Setting
  | none => below
  | some value => some (overlay below value)

/-- Lay one entry over a setting. -/
def layEntry (below : Setting) (entry : Text × Setting) : Setting :=
  .table below.asTable.1 (below.asTable.2.insert (Text.lower entry.1)
    (overlay (below.under? (Text.lower entry.1)) entry.2))

/-- Lay one entry of a layer over a setting. -/
def placeEntry (below : Setting) (entry : Text × Setting) : Setting :=
  place entry.2 (stepsOf entry.1) below

theorem overlayEntries_nil (below : Setting) : overlayEntries below .nil = below := by
  rw [overlayEntries]

theorem overlayEntries_cons (below : Setting) (key : Text) (value : Setting)
    (rest : SettingTable) :
    overlayEntries below (.cons key value rest) =
      overlayEntries (layEntry below (key, value)) rest := by
  rw [overlayEntries]
  rfl

theorem overlayEntries_eq_foldl (below : Setting) :
    (entries : SettingTable) → overlayEntries below entries = entries.toList.foldl layEntry below
  | .nil => overlayEntries_nil below
  | .cons key value rest => by
      rw [overlayEntries_cons, overlayEntries_eq_foldl _ rest, SettingTable.toList,
        List.foldl_cons]

theorem layer_eq_foldl (below : Setting) :
    (entries : SettingTable) → layer below entries = entries.toList.foldl placeEntry below
  | .nil => rfl
  | .cons key value rest => by
      rw [layer, layer_eq_foldl _ rest]
      rfl

/-- A key that is no longer path is laid like a key anywhere else. -/
theorem place_key (value below : Setting) (key : Text) :
    place value [.key key] below = layEntry below (key, value) := by
  change overlayEntries (.table below.asTable.1 below.asTable.2) (.cons key value .nil) = _
  rw [overlayEntries_cons, overlayEntries_nil]
  rfl

theorem place_keys (value below : Setting) (key : Text) (step : Step) (steps : List Step) :
    place value (.key key :: step :: steps) below =
      below.changeKey key (place value (step :: steps)) := rfl

/-! ## Steps that change one key -/

/-- The key at the root of settings that a key at the top of a layer leads to. -/
def rootOf (key : Text) : Text :=
  match Path.read key with
  | .ok path => Text.lower path.root
  | .error _ => Text.lower key

/-- Each step gives one key a value, and nothing else changes. -/
def InsertsAt (step : Setting → Text × Setting → Setting) (target : Text → Text) : Prop :=
  ∀ below entry, ∃ value, step below entry =
    .table below.asTable.1 (below.asTable.2.insert (target entry.1) value)

theorem insertsAt_layEntry : InsertsAt layEntry Text.lower :=
  fun _ _ => ⟨_, rfl⟩

theorem place_inserts (value below : Setting) (root : Text) (steps : List Step) :
    ∃ placed, place value (.key root :: steps) below =
      .table below.asTable.1 (below.asTable.2.insert (Text.lower root) placed) := by
  cases steps with
  | nil =>
      rw [place_key]
      exact ⟨_, rfl⟩
  | cons step steps =>
      rw [place_keys]
      exact ⟨_, rfl⟩

theorem insertsAt_placeEntry : InsertsAt placeEntry rootOf := by
  intro below entry
  rw [placeEntry]
  cases read : Path.read entry.1 with
  | ok path =>
      simp only [stepsOf, rootOf, read]
      exact place_inserts entry.2 below path.root path.steps
  | error error =>
      simp only [stepsOf, rootOf, read]
      exact place_inserts entry.2 below entry.1 []

section Steps

variable {step : Setting → Text × Setting → Setting} {target : Text → Text}

theorem InsertsAt.under?_of_ne (inserts : InsertsAt step target) (below : Setting)
    {entry : Text × Setting} {key : Text} (different : target entry.1 ≠ key) :
    (step below entry).under? key = below.under? key := by
  rcases inserts below entry with ⟨value, equal⟩
  rw [equal]
  exact (SettingTable.find?_insert _ _ _ _).trans (if_neg different)

theorem InsertsAt.under?_foldl_of_ne (inserts : InsertsAt step target)
    {entries : List (Text × Setting)} {key : Text}
    (different : ∀ entry ∈ entries, target entry.1 ≠ key) (below : Setting) :
    (entries.foldl step below).under? key = below.under? key := by
  induction entries generalizing below with
  | nil => rfl
  | cons entry rest induction =>
      rw [List.foldl_cons,
        induction fun other member => different other (List.mem_cons_of_mem entry member),
        inserts.under?_of_ne below (different entry List.mem_cons_self)]

theorem InsertsAt.ordered_foldl (inserts : InsertsAt step target)
    (entries : List (Text × Setting)) {below : Setting} (ordered : below.asTable.2.Ordered) :
    (entries.foldl step below).asTable.2.Ordered := by
  induction entries generalizing below with
  | nil => exact ordered
  | cons entry rest induction =>
      rw [List.foldl_cons]
      apply induction
      rcases inserts below entry with ⟨value, equal⟩
      rw [equal]
      exact ordered.insert (target entry.1) value

theorem InsertsAt.mem_keys_foldl (inserts : InsertsAt step target)
    {entries : List (Text × Setting)} {below : Setting} {key : Text}
    (member : key ∈ (entries.foldl step below).asTable.2.keys) :
    key ∈ below.asTable.2.keys ∨ ∃ entry ∈ entries, target entry.1 = key := by
  induction entries generalizing below with
  | nil => exact .inl member
  | cons entry rest induction =>
      rw [List.foldl_cons] at member
      rcases induction member with before | ⟨other, otherMember, equal⟩
      · rcases inserts below entry with ⟨value, stepped⟩
        rw [stepped] at before
        rcases (SettingTable.mem_keys_insert _ _ _ _).mp before with here | before
        · exact .inr ⟨entry, List.mem_cons_self, here.symm⟩
        · exact .inl before
      · exact .inr ⟨other, List.mem_cons_of_mem entry otherMember, equal⟩

theorem InsertsAt.foldl_eq_table (inserts : InsertsAt step target)
    (entries : List (Text × Setting)) (origin : Origin) (below : SettingTable) :
    ∃ laid, entries.foldl step (.table origin below) = .table origin laid := by
  induction entries generalizing below with
  | nil => exact ⟨below, rfl⟩
  | cons entry rest induction =>
      rcases inserts (.table origin below) entry with ⟨value, equal⟩
      rw [List.foldl_cons, equal]
      exact induction _

/-- What a table leaves under a name that one of its keys spells. -/
theorem InsertsAt.under?_foldl (inserts : InsertsAt step target) {entries : SettingTable}
    (ordered : entries.Ordered) {small : Text} {value : Option Setting}
    (has : entries.Has small value)
    (only : ∀ key ∈ entries.keys, Text.lower key ≠ small → target key ≠ small)
    (lays : ∀ key, Text.lower key = small → ∀ below value,
      (step below (key, value)).under? small = some (overlay (below.under? small) value))
    (below : Setting) :
    (entries.toList.foldl step below).under? small = overlaid (below.under? small) value := by
  cases value with
  | none =>
      apply inserts.under?_foldl_of_ne
      intro entry member
      have key : entry.1 ∈ entries.keys := List.mem_map.mpr ⟨entry, member, rfl⟩
      exact only entry.1 key (has entry.1 key)
  | some value =>
      rcases has with ⟨key, member, spelled, found, unique⟩
      -- One entry lays the value; those before and behind it are spelled otherwise.
      rcases SettingTable.exists_split ordered found with ⟨front, back, split, others⟩
      have different : ∀ entry ∈ front ++ back, target entry.1 ≠ small := by
        intro entry entryMember
        have otherKey : entry.1 ∈ entries.keys := by
          refine List.mem_map.mpr ⟨entry, ?_, rfl⟩
          rw [split]
          rcases List.mem_append.mp entryMember with here | here
          · exact List.mem_append_left _ here
          · exact List.mem_append_right _ (List.mem_cons_of_mem _ here)
        exact only entry.1 otherKey fun same =>
          others entry entryMember (unique entry.1 otherKey same)
      rw [split, List.foldl_append, List.foldl_cons,
        inserts.under?_foldl_of_ne fun entry here => different entry (List.mem_append_right _ here),
        lays key spelled,
        inserts.under?_foldl_of_ne fun entry here => different entry (List.mem_append_left _ here)]
      rfl

/-- What was laid over nothing has small keys only. -/
theorem InsertsAt.has_foldl (inserts : InsertsAt step target) {entries : SettingTable}
    (ordered : entries.Ordered) {small : Text} {value : Option Setting}
    (has : entries.Has small value) (isSmall : Text.lower small = small)
    (only : ∀ key ∈ entries.keys, Text.lower key ≠ small → target key ≠ small)
    (smallTarget : ∀ key, Text.lower (target key) = target key)
    (lays : ∀ key, Text.lower key = small → ∀ below value,
      (step below (key, value)).under? small = some (overlay (below.under? small) value)) :
    (entries.toList.foldl step emptyTable).asTable.2.Has small (value.map (overlay none)) := by
  have spelled : ∀ key ∈ (entries.toList.foldl step emptyTable).asTable.2.keys,
      Text.lower key = key := by
    intro key member
    rcases inserts.mem_keys_foldl member with before | ⟨entry, _, equal⟩
    · cases before
    · rw [← equal, smallTarget]
  have found := inserts.under?_foldl ordered has only lays emptyTable
  cases value with
  | none =>
      intro key member same
      rw [spelled key member] at same
      rw [same] at member
      exact (SettingTable.find?_eq_none_iff small _).mp found member
  | some value =>
      refine ⟨small, SettingTable.mem_keys_of_find? found, isSmall, found, ?_⟩
      intro other member same
      exact (spelled other member).symm.trans same

end Steps

/-! ## Sections -/

theorem under?_layEntry {key small : Text} (spelled : Text.lower key = small)
    (below value : Setting) :
    (layEntry below (key, value)).under? small =
      some (overlay (below.under? small) value) := by
  subst spelled
  exact (SettingTable.find?_insert _ _ _ _).trans (if_pos rfl)

/-- A table laid over nothing and then over another one goes through its entries twice. -/
theorem overlay_table_eq_foldl {below : Option Setting} {belowOrigin : Origin}
    {belowEntries : SettingTable} (place : below.getD emptyTable = .table belowOrigin belowEntries)
    (origin : Origin) (entries : SettingTable) :
    ∃ own laid, entries.toList.foldl layEntry emptyTable = .table none own ∧
      own.toList.foldl layEntry (.table belowOrigin belowEntries) = .table belowOrigin laid ∧
      overlay below (overlay none (.table origin entries)) = .table belowOrigin laid := by
  rcases insertsAt_layEntry.foldl_eq_table entries.toList none .nil with ⟨own, ownEqual⟩
  rcases insertsAt_layEntry.foldl_eq_table own.toList belowOrigin belowEntries with
    ⟨laid, laidEqual⟩
  refine ⟨own, laid, ownEqual, laidEqual, ?_⟩
  rw [overlay, Option.getD_none, overlayEntries_eq_foldl, emptyTable, ownEqual, overlay, place,
    overlayEntries_eq_foldl, laidEqual]

/-- What a table leaves under a name once it was laid over nothing and over a place. -/
theorem under?_overlay (below : Option Setting) (origin : Origin) {entries : SettingTable}
    (ordered : entries.Ordered) {small : Text} {value : Option Setting}
    (isSmall : Text.lower small = small) (has : entries.Has small value) :
    (overlay below (overlay none (.table origin entries))).under? small =
      overlaid (below.bind (·.under? small)) (value.map (overlay none)) := by
  rcases insertsAt_layEntry.foldl_eq_table entries.toList none .nil with ⟨own, ownEqual⟩
  have ownOrdered : (Setting.table none own).asTable.2.Ordered := by
    rw [← ownEqual]
    exact insertsAt_layEntry.ordered_foldl entries.toList .nil
  have ownHas : (Setting.table none own).asTable.2.Has small (value.map (overlay none)) := by
    rw [← ownEqual]
    exact insertsAt_layEntry.has_foldl ordered has isSmall (fun _ _ => id) Text.lower_lower
      fun _ => under?_layEntry
  have found := insertsAt_layEntry.under?_foldl ownOrdered ownHas (fun _ _ => id)
    (fun _ => under?_layEntry) (below.getD emptyTable)
  rw [overlay, Option.getD_none, overlayEntries_eq_foldl, emptyTable, ownEqual, overlay,
    overlayEntries_eq_foldl]
  refine found.trans ?_
  cases below <;> rfl

/-- The same of a table over another one, seen from outside and by its keys. -/
theorem overlay_table {below : Option Setting} {belowOrigin : Origin}
    {belowEntries : SettingTable} (place : below.getD emptyTable = .table belowOrigin belowEntries)
    (origin : Origin) {entries : SettingTable} (ordered : entries.Ordered) :
    ∃ laid, overlay below (overlay none (.table origin entries)) = .table belowOrigin laid ∧
      ∀ small value, Text.lower small = small → entries.Has small value →
        laid.find? small =
          overlaid (belowEntries.find? small) (value.map (overlay none)) := by
  rcases overlay_table_eq_foldl place origin entries with ⟨_, laid, _, _, equal⟩
  refine ⟨laid, equal, ?_⟩
  intro small value isSmall has
  have found := under?_overlay below origin ordered isSmall has
  rw [equal] at found
  refine found.trans ?_
  cases below <;> cases place <;> rfl

/-- Values that replace what is there keep what holds of all of them. -/
theorem forall_foldl_layEntry {good : Setting → Prop}
    (replaces : ∀ setting, good setting → ∀ below, overlay below setting = setting)
    {entries : List (Text × Setting)} (allGood : ∀ entry ∈ entries, good entry.2) {below : Setting}
    (belowGood : ∀ entry ∈ below.asTable.2.toList, good entry.2) :
    ∀ entry ∈ (entries.foldl layEntry below).asTable.2.toList, good entry.2 := by
  induction entries generalizing below with
  | nil => exact belowGood
  | cons entry rest induction =>
      rw [List.foldl_cons]
      apply induction fun other member => allGood other (List.mem_cons_of_mem entry member)
      have isGood := allGood entry List.mem_cons_self
      intro other member
      rcases SettingTable.mem_toList_of_mem_insert member with new | before
      · rw [new, replaces _ isGood]
        exact isGood
      · exact belowGood other before

theorem forall_overlay_table {good : Setting → Prop}
    (replaces : ∀ setting, good setting → ∀ below, overlay below setting = setting)
    (origin : Origin) {entries : SettingTable} (allGood : ∀ entry ∈ entries.toList, good entry.2) :
    ∃ laid, overlay none (overlay none (.table origin entries)) = .table none laid ∧
      ∀ entry ∈ laid.toList, good entry.2 := by
  have place : (none : Option Setting).getD emptyTable = .table none .nil := rfl
  rcases overlay_table_eq_foldl place origin entries with ⟨own, laid, ownEqual, laidEqual, equal⟩
  refine ⟨laid, equal, ?_⟩
  have nothing : ∀ entry ∈ emptyTable.asTable.2.toList, good entry.2 :=
    fun entry member => absurd member List.not_mem_nil
  have ownGood : ∀ entry ∈ (Setting.table none own).asTable.2.toList, good entry.2 := by
    rw [← ownEqual]
    exact forall_foldl_layEntry replaces allGood nothing
  change ∀ entry ∈ (Setting.table none laid).asTable.2.toList, good entry.2
  rw [← laidEqual]
  exact forall_foldl_layEntry replaces ownGood nothing

/-! ## Names at the root -/

/-- A name in small letters that is a path of its own. -/
def IsName (small : Text) : Prop :=
  Text.lower small = small ∧ '.' ∉ small ∧ '[' ∉ small

theorem isName_of_plain {small : Text} (plain : small.all Text.isPlain = true)
    (noMark : '.' ∉ small ∧ '[' ∉ small) : IsName small :=
  ⟨Text.lower_of_plain plain, noMark⟩

theorem readSteps_of_no_mark {rest : Text} (noDot : '.' ∉ rest) (noBracket : '[' ∉ rest)
    {steps : List Step} (read : Path.readSteps rest.length rest = .ok steps) :
    rest = [] ∧ steps = [] := by
  cases rest with
  | nil =>
      cases read
      exact ⟨rfl, rfl⟩
  | cons char rest =>
      have noStep : Path.readStep (char :: rest) = .error .mark := by
        unfold Path.readStep
        split
        · next equal =>
            cases equal
            exact absurd List.mem_cons_self noDot
        · next equal =>
            cases equal
            exact absurd List.mem_cons_self noBracket
        · rfl
      rw [List.length_cons, Path.readSteps, noStep] at read
      · cases read
      · exact List.cons_ne_nil char rest

/-- A path that is read is a root with steps behind it. -/
theorem exists_steps_of_read {key : Text} {path : Path} (read : Path.read key = .ok path) :
    ∃ rest, key = path.root ++ rest ∧ Path.readSteps rest.length rest = .ok path.steps := by
  rw [Path.read] at read
  split at read
  · cases read
  · next root rest readKey =>
      have split : key = root ++ rest := by
        rw [Path.readKey] at readKey
        split at readKey
        · cases readKey
        · cases readKey
          exact List.takeWhile_append_dropWhile.symm
      split at read
      · cases read
      · next steps readSteps =>
          cases read
          exact ⟨rest, split, readSteps⟩

/-- A key without the marks of a path is a path of itself, or none. -/
theorem read_of_no_mark {key : Text} (noDot : '.' ∉ key) (noBracket : '[' ∉ key) {path : Path}
    (read : Path.read key = .ok path) : path = ⟨key, []⟩ := by
  rcases path with ⟨root, steps⟩
  rcases exists_steps_of_read read with ⟨rest, split, readSteps⟩
  rw [split] at noDot noBracket
  rcases readSteps_of_no_mark (fun member => noDot (List.mem_append_right _ member))
    (fun member => noBracket (List.mem_append_right _ member)) readSteps with ⟨nothing, noSteps⟩
  change steps = [] at noSteps
  rw [split, nothing, noSteps, List.append_nil]

theorem no_mark_of_lower {key small : Text} (name : IsName small)
    (spelled : Text.lower key = small) : '.' ∉ key ∧ '[' ∉ key := by
  rcases name with ⟨_, noDot, noBracket⟩
  rw [← spelled] at noDot noBracket
  exact ⟨fun member => noDot (Text.mem_lower_of_isSmall Text.isSmall_dot member),
    fun member => noBracket (Text.mem_lower_of_isSmall Text.isSmall_bracket member)⟩

theorem rootOf_of_spelled {key small : Text} (name : IsName small)
    (spelled : Text.lower key = small) : rootOf key = small := by
  rcases no_mark_of_lower name spelled with ⟨noDot, noBracket⟩
  rw [rootOf]
  cases read : Path.read key with
  | ok path =>
      rw [read_of_no_mark noDot noBracket read]
      exact spelled
  | error error => exact spelled

theorem under?_placeEntry {key small : Text} (name : IsName small)
    (spelled : Text.lower key = small) (below value : Setting) :
    (placeEntry below (key, value)).under? small =
      some (overlay (below.under? small) value) := by
  rcases no_mark_of_lower name spelled with ⟨noDot, noBracket⟩
  have single : stepsOf key = [.key key] := by
    rw [stepsOf]
    cases read : Path.read key with
    | ok path => rw [read_of_no_mark noDot noBracket read]
    | error error => rfl
  rw [placeEntry, single, place_key]
  exact under?_layEntry spelled below value

/-! ## Documents -/

theorem lower_rootOf (key : Text) : Text.lower (rootOf key) = rootOf key := by
  rw [rootOf]
  split <;> exact Text.lower_lower _

/-- Besides its spellings no key leads to a name, neither as it is written nor as what it led
to the first time. -/
def Alone (keys : List Text) (small : Text) : Prop :=
  ∀ key ∈ keys, Text.lower key ≠ small → rootOf key ≠ small ∧ rootOf (rootOf key) ≠ small

instance (keys : List Text) (small : Text) : Decidable (Alone keys small) :=
  inferInstanceAs (Decidable (∀ _ ∈ _, _))

/-- What a document over defaults has under a name. -/
theorem under?_merged (defaults : List Default) {document : SettingTable}
    (ordered : document.Ordered) {small : Text} {value : Option Setting}
    (has : document.Has small value) (name : IsName small) (alone : Alone document.keys small) :
    (merged defaults document).under? small =
      overlaid ((Default.settings defaults).under? small) (value.map (overlay none)) := by
  have lays : ∀ key, Text.lower key = small → ∀ below value,
      (placeEntry below (key, value)).under? small = some (overlay (below.under? small) value) :=
    fun _ => under?_placeEntry name
  -- What the document leaves over nothing is a document again, now with small keys.
  have own := insertsAt_placeEntry.has_foldl ordered has name.1
    (fun key member different => (alone key member different).1) lower_rootOf lays
  have ownOrdered : (document.toList.foldl placeEntry emptyTable).asTable.2.Ordered :=
    insertsAt_placeEntry.ordered_foldl document.toList .nil
  rw [merged, ofDocument, layer_eq_foldl, layer_eq_foldl]
  apply insertsAt_placeEntry.under?_foldl ownOrdered own _ lays
  intro key member different
  rcases insertsAt_placeEntry.mem_keys_foldl member with before | ⟨entry, entryMember, equal⟩
  · cases before
  · rw [← equal] at different ⊢
    by_cases spelled : Text.lower entry.1 = small
    · rw [lower_rootOf, rootOf_of_spelled name spelled] at different
      exact absurd rfl different
    · exact (alone entry.1 (List.mem_map.mpr ⟨entry, entryMember, rfl⟩) spelled).2

end Setting

end StubDns
