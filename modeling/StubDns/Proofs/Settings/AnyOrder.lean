import StubDns.Proofs.Settings.Placing

/-! # Entries in any order

A document keeps the entries of its tables in no order. Where a table is laid, its entries are gone
through in some order: once when the document is laid over nothing, and once more when what this
left is laid over defaults. So a document may leave different settings, one for each order. Where
no two keys of a table have the same small form, and no key at the root is a path, it leaves the
same in all orders.
-/

namespace StubDns

/-! ## Orders of entries -/

/-- The entries of a table are in another order, and so are those of tables in it. A table under
a key that is taken over whole stays as it is, and so does one in an array. -/
inductive SettingTable.Rearranges : (Text → Prop) → SettingTable → SettingTable → Prop
  | nil (whole : Text → Prop) : Rearranges whole .nil .nil
  | kept {whole : Text → Prop} {left right : SettingTable} (key : Text) (value : Setting)
      (rest : left.Rearranges whole right) :
      Rearranges whole (.cons key value left) (.cons key value right)
  | inside {whole : Text → Prop} {inner otherInner left right : SettingTable} {key : Text}
      (notWhole : ¬ whole key) (origin : Origin)
      (behind : inner.Rearranges (fun _ => False) otherInner) (rest : left.Rearranges whole right) :
      Rearranges whole (.cons key (.table origin inner) left)
        (.cons key (.table origin otherInner) right)
  | swap (whole : Text → Prop) (key other : Text) (value otherValue : Setting)
      (rest : SettingTable) :
      Rearranges whole (.cons key value (.cons other otherValue rest))
        (.cons other otherValue (.cons key value rest))
  | trans {whole : Text → Prop} {left middle right : SettingTable}
      (first : left.Rearranges whole middle) (second : middle.Rearranges whole right) :
      left.Rearranges whole right

namespace Setting

/-- What stands under a key goes to a position of an array and replaces what is there. -/
def TakenWhole (key : Text) : Prop := ∃ front index, stepsOf key = front ++ [.position index]

/-- What may be left by a layer whose entries are laid in some order. -/
def MayLayer (below : Setting) (document : SettingTable) (result : Setting) : Prop :=
  ∃ order, document.Rearranges TakenWhole order ∧ result = layer below order

/-- What may be left by a document that is laid over nothing and then over settings. -/
def MayMerge (below : Setting) (document : SettingTable) (result : Setting) : Prop :=
  ∃ own, MayLayer emptyTable document own ∧ MayLayer below own.asTable.2 result

/-! ## Keys that do not meet -/

mutual
/-- No two keys of a table have the same small form, nor do two of a table in it. Nothing is said
of tables in arrays. -/
def Distinct : Setting → Prop
  | .plain _ _ => True
  | .array _ _ => True
  | .table _ entries => DistinctEntries entries

def DistinctEntries : SettingTable → Prop
  | .nil => True
  | .cons key value rest =>
      (∀ other ∈ rest.keys, Text.lower key ≠ Text.lower other) ∧ Distinct value ∧
        DistinctEntries rest
end

mutual
instance decidableDistinct : (setting : Setting) → Decidable setting.Distinct
  | .plain _ _ => .isTrue trivial
  | .array _ _ => .isTrue trivial
  | .table _ entries => decidableDistinctEntries entries

instance decidableDistinctEntries : (entries : SettingTable) → Decidable (DistinctEntries entries)
  | .nil => .isTrue trivial
  | .cons _ value rest =>
      letI := decidableDistinct value
      letI := decidableDistinctEntries rest
      inferInstanceAs (Decidable (_ ∧ _ ∧ _))
end

theorem SmallKeys.of_cons {origin : Origin} {key : Text} {value : Setting} {rest : SettingTable}
    (holds : SmallKeys (.table origin (.cons key value rest))) :
    value.SmallKeys ∧ SmallKeys (.table origin rest) := by
  have ordered := holds.ordered_table
  refine ⟨holds.find?_table (SettingTable.find?_cons_self key value rest), ?_⟩
  apply SmallKeys.table origin (SettingTable.ordered_cons_iff.mp ordered).2
  · intro other member
    exact holds.small_table other (List.mem_cons_of_mem key member)
  · intro other otherValue found
    have different : key ≠ other := ordered.ne_of_mem (SettingTable.mem_keys_of_find? found)
    exact holds.find?_table ((if_neg different).trans found)

mutual
/-- Small keys in order do not meet. -/
theorem SmallKeys.distinct : {setting : Setting} → setting.SmallKeys → setting.Distinct
  | .plain _ _, _ => trivial
  | .array _ _, _ => trivial
  | .table _ _, holds => holds.distinctEntries

theorem SmallKeys.distinctEntries {origin : Origin} :
    {entries : SettingTable} → SmallKeys (.table origin entries) → DistinctEntries entries
  | .nil, _ => trivial
  | .cons key value rest, holds => by
      rcases holds.of_cons with ⟨valueHolds, restHolds⟩
      refine ⟨?_, valueHolds.distinct, restHolds.distinctEntries⟩
      intro other member equal
      rw [holds.small_table key List.mem_cons_self,
        holds.small_table other (List.mem_cons_of_mem key member)] at equal
      exact holds.ordered_table.ne_of_mem member equal
end

end Setting

/-! ## Other orders of the same table -/

namespace SettingTable.Rearranges

open Setting

theorem refl (whole : Text → Prop) : (entries : SettingTable) → entries.Rearranges whole entries
  | .nil => .nil whole
  | .cons key value rest => .kept key value (refl whole rest)

variable {whole : Text → Prop} {left right : SettingTable}

theorem keys_perm (rearranges : left.Rearranges whole right) : left.keys.Perm right.keys := by
  induction rearranges with
  | nil whole => exact .nil
  | kept key value rest induction => exact induction.cons key
  | @inside whole inner otherInner left right key notWhole origin behind rest _ induction =>
      exact induction.cons key
  | swap whole key other value otherValue rest => exact .swap other key rest.keys
  | trans first second firstInduction secondInduction =>
      exact firstInduction.trans secondInduction

theorem distinct (rearranges : left.Rearranges whole right) (apart : DistinctEntries left) :
    DistinctEntries right := by
  induction rearranges with
  | nil whole => exact apart
  | kept key value rest induction =>
      rcases apart with ⟨different, valueApart, restApart⟩
      refine ⟨?_, valueApart, induction restApart⟩
      intro other member
      exact different other (rest.keys_perm.mem_iff.mpr member)
  | inside notWhole origin behind rest innerInduction induction =>
      rcases apart with ⟨different, innerApart, restApart⟩
      refine ⟨?_, innerInduction innerApart, induction restApart⟩
      intro other member
      exact different other (rest.keys_perm.mem_iff.mpr member)
  | swap whole key other value otherValue rest =>
      simp only [DistinctEntries, keys_cons, List.forall_mem_cons] at apart ⊢
      rcases apart with ⟨⟨different, fromKey⟩, valueApart, fromOther, otherApart, restApart⟩
      exact ⟨⟨different.symm, fromOther⟩, otherApart, fromKey, valueApart, restApart⟩
  | trans first second firstInduction secondInduction =>
      exact secondInduction (firstInduction apart)

end SettingTable.Rearranges

namespace Setting

theorem layEntry_eq_withKey (below : Setting) (entry : Text × Setting) :
    layEntry below entry =
      below.withKey (Text.lower entry.1) (overlay (below.under? (Text.lower entry.1)) entry.2) := rfl

/-- The order in which two entries are laid does not matter if their keys do not meet. -/
theorem layEntry_comm {left right : Text × Setting}
    (different : Text.lower left.1 ≠ Text.lower right.1) (below : Setting) :
    layEntry (layEntry below left) right = layEntry (layEntry below right) left := by
  have rightStays := insertsAt_layEntry.under?_of_ne below different
  have leftStays := insertsAt_layEntry.under?_of_ne below different.symm
  rw [layEntry_eq_withKey (layEntry below left), rightStays,
    layEntry_eq_withKey (layEntry below right), leftStays, layEntry_eq_withKey,
    layEntry_eq_withKey, withKey_comm different]

/-- Entries whose keys do not meet leave the same in each order. -/
theorem overlayEntries_eq_of_rearranges {whole : Text → Prop} {left right : SettingTable}
    (rearranges : left.Rearranges whole right) (apart : DistinctEntries left) (below : Setting) :
    overlayEntries below left = overlayEntries below right := by
  induction rearranges generalizing below with
  | nil whole => rfl
  | kept key value rest induction =>
      rw [overlayEntries_cons, overlayEntries_cons, induction apart.2.2]
  | inside notWhole origin behind rest innerInduction induction =>
      -- The inner entries are laid over what is under the key, whatever that is.
      rw [overlayEntries_cons, overlayEntries_cons, layEntry, layEntry, overlay, overlay,
        innerInduction apart.2.1, induction apart.2.2]
  | swap whole key other value otherValue rest =>
      have different := apart.1 other List.mem_cons_self
      rw [overlayEntries_cons, overlayEntries_cons, overlayEntries_cons, overlayEntries_cons,
        layEntry_comm different]
  | trans first second firstInduction secondInduction =>
      rw [firstInduction apart, secondInduction (first.distinct apart)]

/-! ## Layers with one result -/

theorem layer_eq_overlayEntries (below : Setting) :
    (entries : SettingTable) → (∀ key ∈ entries.keys, isExpression key = false) →
      layer below entries = overlayEntries below entries
  | .nil, _ => (overlayEntries_nil below).symm
  | .cons key value rest, noPaths => by
      rw [SettingTable.keys_cons, List.forall_mem_cons] at noPaths
      rw [layer, stepsOf_of_no_expression noPaths.1, place_key, overlayEntries_cons,
        layer_eq_overlayEntries _ rest noPaths.2]

section Single

variable {document : SettingTable}

theorem mayLayer_iff (below : Setting) (apart : DistinctEntries document)
    (noPaths : ∀ key ∈ document.keys, isExpression key = false) {result : Setting} :
    MayLayer below document result ↔ result = layer below document := by
  constructor
  · intro may
    rcases may with ⟨order, rearranges, equal⟩
    have orderNoPaths : ∀ key ∈ order.keys, isExpression key = false := by
      intro key member
      exact noPaths key (rearranges.keys_perm.mem_iff.mpr member)
    rw [equal, layer_eq_overlayEntries below order orderNoPaths,
      layer_eq_overlayEntries below document noPaths,
      overlayEntries_eq_of_rearranges rearranges apart]
  · intro equal
    exact ⟨document, .refl TakenWhole document, equal⟩

/-- What a document without paths leaves over nothing has no paths either. -/
theorem no_expression_ofDocument (noPaths : NoPaths document.keys) :
    ∀ key ∈ (ofDocument document).asTable.2.keys, isExpression key = false := by
  intro key member
  rw [ofDocument, layer_eq_foldl] at member
  rcases insertsAt_placeEntry.mem_keys_foldl member with before | ⟨entry, entryMember, equal⟩
  · cases before
  · rcases noPaths entry.1 (List.mem_map.mpr ⟨entry, entryMember, rfl⟩) with ⟨first, second⟩
    rw [← equal, rootOf_of_no_expression first]
    exact second

/-- The order of entries is not seen where no keys meet and none is a path. -/
theorem mayMerge_iff (below : Setting) (apart : DistinctEntries document)
    (noPaths : NoPaths document.keys) {result : Setting} :
    MayMerge below document result ↔ result = layer below (ofDocument document).asTable.2 := by
  have written : ∀ key ∈ document.keys, isExpression key = false :=
    fun key member => (noPaths key member).1
  have ownApart := (((SmallKeys.nil none).layer document).asTable none).distinctEntries
  have ownNoPaths := no_expression_ofDocument noPaths
  constructor
  · intro may
    rcases may with ⟨own, mayOwn, mayResult⟩
    rw [(mayLayer_iff emptyTable apart written).mp mayOwn] at mayResult
    exact (mayLayer_iff below ownApart ownNoPaths).mp mayResult
  · intro equal
    exact ⟨ofDocument document, (mayLayer_iff emptyTable apart written).mpr rfl,
      (mayLayer_iff below ownApart ownNoPaths).mpr equal⟩

end Single

/-- The order of the keys is one of the orders. -/
theorem mayMerge_layer (below : Setting) (document : SettingTable) :
    MayMerge below document (layer below (ofDocument document).asTable.2) :=
  ⟨ofDocument document, ⟨document, .refl TakenWhole document, rfl⟩, _, .refl TakenWhole _, rfl⟩

end Setting

end StubDns
