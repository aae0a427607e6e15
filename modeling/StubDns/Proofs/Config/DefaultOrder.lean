import StubDns.Proofs.Config.FileOverDefaults
import StubDns.Proofs.Settings.AnyOrder
import StubDns.Proofs.Settings.DottedPaths

/-! # The order of defaults

Defaults are kept by their paths and laid in an order that is not fixed. For plain values with
dotted paths this order is not seen, nor is the one in which they are given, as long as no path
lies on the way to another one: all orders make the same settings. So under any file they lead to
the same results, of which there may be several if keys of the file meet, since its entries are
laid in an order that is not fixed either. Without a file the result is one, and it is the values
at their paths and nothing else.
-/

namespace StubDns

namespace Default

/-! ## Defaults of dotted paths -/

/-- A plain value with a dotted path, as it is given. -/
def dotted (entry : List Text × Plain) : Text × Setting :=
  (Text.join '.' entry.1, .plain none entry.2)

/-- The default of a plain value with a dotted path. -/
def ofNames (entry : List Text × Plain) : Default where
  path := ⟨entry.1.headD [], entry.1.tail.map .key⟩
  value := .plain none entry.2

theorem eq_of_path_ofNames {left right : List Text × Plain} (leftNonempty : left.1 ≠ [])
    (rightNonempty : right.1 ≠ []) (equal : (ofNames left).path = (ofNames right).path) :
    left.1 = right.1 := by
  rcases left with ⟨_ | ⟨root, names⟩, value⟩
  · exact absurd rfl leftNonempty
  · rcases right with ⟨_ | ⟨otherRoot, otherNames⟩, otherValue⟩
    · exact absurd rfl rightNonempty
    · rcases Path.mk.inj equal with ⟨roots, steps⟩
      have names : names = otherNames := List.map_injective_iff.mpr (fun _ _ => Step.key.inj) steps
      exact congrArg₂ List.cons roots names

/-- The defaults that are made of paths and values, one by one. -/
def madeOf (given : List (Text × Setting)) : Except PathError (List Default) :=
  given.mapM fun entry => make entry.1 entry.2

theorem madeOf_map {entries : List α} {write : α → Text × Setting} {read : α → Default}
    (makes : ∀ entry ∈ entries, make (write entry).1 (write entry).2 = .ok (read entry)) :
    madeOf (entries.map write) = .ok (entries.map read) := by
  induction entries with
  | nil => rfl
  | cons entry rest induction =>
      have later : madeOf (rest.map write) = .ok (rest.map read) :=
        induction fun other member => makes other (List.mem_cons_of_mem entry member)
      rw [madeOf] at later
      rw [madeOf, List.map_cons, List.mapM_cons, makes entry List.mem_cons_self, later]
      rfl

/-- Defaults with different paths are all kept, as they were added. -/
theorem foldl_add {kept defaults : List Default}
    (once : ((kept ++ defaults).map (·.path)).Nodup) :
    defaults.foldl add kept = kept ++ defaults := by
  induction defaults generalizing kept with
  | nil => exact (List.append_nil kept).symm
  | cons default rest induction =>
      have different : ∀ other ∈ kept, other.path ≠ default.path := by
        intro other member equal
        rw [List.map_append, List.nodup_append] at once
        exact once.2.2 _ (List.mem_map_of_mem member) _ (List.mem_map_of_mem List.mem_cons_self)
          equal
      have stays : add kept default = kept ++ [default] := by
        rw [add, List.filter_eq_self.mpr]
        intro other member
        exact bne_iff_ne.mpr (different other member)
      rw [List.append_cons] at once ⊢
      rw [List.foldl_cons, stays, induction once]

/-! ## Laying in some order -/

/-- Lay one default. -/
def lay (below : Setting) (default : Default) : Setting :=
  Setting.place default.value (.key default.path.root :: default.path.steps) below

/-- The settings of defaults that are laid in the order of a list. -/
def laid (order : List Default) : Setting := order.foldl lay .emptyTable

theorem settings_eq_laid (defaults : List Default) :
    settings defaults = laid (defaults.foldl add []) := rfl

theorem lay_ofNames {entry : List Text × Plain} (nonempty : entry.1 ≠ []) (below : Setting) :
    lay below (ofNames entry) = Setting.put entry.1 entry.2 below := by
  rcases entry with ⟨_ | ⟨root, names⟩, value⟩
  · exact absurd rfl nonempty
  · rfl

/-! ## Proper defaults -/

/-- Plain values with dotted paths of identifiers, of which none lies on the way to another
one. -/
structure Proper (given : List (List Text × Plain)) : Prop where
  nonempty : ∀ entry ∈ given, entry.1 ≠ []
  identifiers : ∀ entry ∈ given, ∀ name ∈ entry.1, Path.IsIdentifier name
  apart : given.Pairwise fun left right => Setting.Apart left.1 right.1

namespace Proper

variable {given others : List (List Text × Plain)} (proper : Proper given)

include proper

theorem perm (same : others.Perm given) : Proper others where
  nonempty entry member := proper.nonempty entry (same.mem_iff.mp member)
  identifiers entry member := proper.identifiers entry (same.mem_iff.mp member)
  apart := (same.pairwise_iff Setting.Apart.symm).mpr proper.apart

theorem separate : Setting.Separate given where
  nonempty := proper.nonempty
  isPlace entry member name inside := (proper.identifiers entry member name inside).lower
  apart := proper.apart

theorem madeOf_dotted : madeOf (given.map dotted) = .ok (given.map ofNames) := by
  apply madeOf_map
  intro entry member
  have identifiers := proper.identifiers entry member
  rcases entry with ⟨_ | ⟨root, names⟩, value⟩
  · exact absurd rfl (proper.nonempty _ member)
  · rw [make, dotted, Path.read_join identifiers]
    rfl

theorem foldl_add_ofNames : (given.map ofNames).foldl add [] = given.map ofNames := by
  apply foldl_add
  rw [List.nil_append, List.map_map, List.Nodup, List.pairwise_map]
  apply proper.apart.imp_of_mem
  intro left right leftMember rightMember apart equal
  have sameNames := eq_of_path_ofNames (proper.nonempty left leftMember)
    (proper.nonempty right rightMember) equal
  exact apart.1 ⟨[], (List.append_nil left.1).trans sameNames⟩

/-- Each order of the defaults makes the same settings. -/
theorem laid_perm {order : List Default} (same : order.Perm (given.map ofNames)) :
    laid order = laid (given.map ofNames) := by
  apply same.foldl_eq'
  intro left leftMember right rightMember below
  rcases List.mem_map.mp (same.mem_iff.mp leftMember) with ⟨entry, member, rfl⟩
  rcases List.mem_map.mp (same.mem_iff.mp rightMember) with ⟨other, otherMember, rfl⟩
  have nonempty := proper.nonempty entry member
  have otherNonempty := proper.nonempty other otherMember
  rw [lay_ofNames nonempty, lay_ofNames otherNonempty, lay_ofNames otherNonempty,
    lay_ofNames nonempty, proper.separate.put_comm member otherMember]

theorem laid_ofNames : laid (given.map ofNames) = Setting.putAll given .emptyTable := by
  rw [laid, List.foldl_map, Setting.putAll]
  apply List.foldl_ext
  intro below entry member
  exact lay_ofNames (proper.nonempty entry member) below

theorem settings_eq : settings (given.map ofNames) = laid (given.map ofNames) := by
  rw [settings_eq_laid, proper.foldl_add_ofNames]

/-- Given and laid in any order, they make the same settings. -/
theorem laid_eq_settings (same : others.Perm given) {order : List Default}
    (ordered : order.Perm ((others.map ofNames).foldl add [])) :
    laid order = settings (given.map ofNames) := by
  rw [(proper.perm same).foldl_add_ofNames] at ordered
  rw [proper.laid_perm (ordered.trans (same.map _)), proper.settings_eq]

theorem consists_settings : Setting.Consists given (settings (given.map ofNames)) := by
  rw [proper.settings_eq, proper.laid_ofNames]
  exact proper.separate.consists

end Proper

end Default

namespace Config

open Default (Proper dotted madeOf)

/-- What may be loaded from a file over settings. The entries of the file are laid in some
order. -/
def MayLoad (below : Setting) (files : Files) (path : Text) (result : Read Setting) : Prop :=
  match document files path with
  | .error error => result = .error error
  | .ok entries => ∃ tree, below.MayMerge entries tree ∧ result = .ok tree

/-- What may come out of a file over defaults that are given one by one: a path that is none ends
this, and the defaults of all other paths are laid in some order. -/
def MayGive (given : List (Text × Setting)) (files : Files) (path : Text) (result : Read Setting) :
    Prop :=
  match madeOf given with
  | .error error => result = .error (.path error)
  | .ok defaults => ∃ order, order.Perm (defaults.foldl Default.add []) ∧
      MayLoad (Default.laid order) files path result

section MayLoad

variable (defaults : List Default) {files : Files} {path : Text}

theorem mayLoad_settings (files : Files) (path : Text) :
    MayLoad (Default.settings defaults) files path (settings defaults files path) := by
  rw [MayLoad, settings]
  cases document files path with
  | error error => rfl
  | ok entries => exact ⟨_, Setting.mayMerge_layer _ entries, rfl⟩

/-- Without keys that meet or are paths there is one result. -/
theorem mayLoad_iff (single : ∀ entries, document files path = .ok entries →
      Setting.DistinctEntries entries ∧ Setting.NoPaths entries.keys) {result : Read Setting} :
    MayLoad (Default.settings defaults) files path result ↔
      result = settings defaults files path := by
  rw [MayLoad, settings]
  cases read : document files path with
  | error error => exact Iff.rfl
  | ok entries =>
      rcases single entries read with ⟨apart, noPaths⟩
      simp only [Setting.mayMerge_iff _ apart noPaths, exists_eq_left]
      exact Iff.rfl

theorem SaysNothing.mayLoad_iff (nothing : SaysNothing files path) {result : Read Setting} :
    MayLoad (Default.settings defaults) files path result ↔
      result = settings defaults files path := by
  apply Config.mayLoad_iff
  intro entries read
  rw [nothing.document_eq] at read
  cases read
  exact ⟨trivial, List.forall_mem_nil _⟩

end MayLoad

theorem mayGive_iff {given others : List (List Text × Plain)} (proper : Proper given)
    (same : others.Perm given) {files : Files} {path : Text} {result : Read Setting} :
    MayGive (others.map dotted) files path result ↔
      MayLoad (Default.settings (given.map Default.ofNames)) files path result := by
  rw [MayGive, (proper.perm same).madeOf_dotted]
  constructor
  · intro may
    rcases may with ⟨order, ordered, may⟩
    rw [proper.laid_eq_settings same ordered] at may
    exact may
  · intro may
    refine ⟨_, .refl _, ?_⟩
    rw [proper.laid_eq_settings same (.refl _)]
    exact may

/-- Plain values with dotted paths, of which none lies on the way to another one, may be given and
laid in any order: each order makes the same settings, so that each order in which the entries of
a file are laid over them has one result, and the results under a file, be they settings or an
error, are the same. If no keys of the file meet and none at its root is a path there is one
result. Without a file it has the values at their paths and nothing else. The defaults of client
and server are such values. -/
theorem settings_ignore_default_order :
    (∀ given, Proper given → ∃ defaults, madeOf (given.map dotted) = .ok defaults ∧
      (∀ others : List (List Text × Plain), others.Perm given →
        ∃ made, madeOf (others.map dotted) = .ok made ∧
          ∀ order : List Default, order.Perm (made.foldl Default.add []) →
            Default.laid order = Default.settings defaults) ∧
      ∀ files path,
        (∀ others : List (List Text × Plain), others.Perm given → ∀ result,
          MayGive (others.map dotted) files path result ↔
            MayLoad (Default.settings defaults) files path result) ∧
        MayLoad (Default.settings defaults) files path (settings defaults files path) ∧
        ((∀ entries, document files path = .ok entries →
            Setting.DistinctEntries entries ∧ Setting.NoPaths entries.keys) →
          ∀ result, MayLoad (Default.settings defaults) files path result ↔
            result = settings defaults files path) ∧
        (SaysNothing files path → ∃ tree,
          (∀ result, MayLoad (Default.settings defaults) files path result ↔ result = .ok tree) ∧
            Setting.Consists given tree)) ∧
    (∃ given, Proper given ∧ madeOf (given.map dotted) = .ok ClientConfig.defaults) ∧
    ∃ given, Proper given ∧ madeOf (given.map dotted) = .ok ServerConfig.defaults := by
  refine ⟨?_, ?_, ?_⟩
  · intro given proper
    refine ⟨given.map Default.ofNames, proper.madeOf_dotted, ?_, ?_⟩
    · intro others same
      refine ⟨_, (proper.perm same).madeOf_dotted, ?_⟩
      intro order ordered
      exact proper.laid_eq_settings same ordered
    · intro files path
      refine ⟨?_, mayLoad_settings _ files path, ?_, ?_⟩
      · intro others same result
        exact mayGive_iff proper same
      · intro single result
        exact mayLoad_iff _ single
      · intro nothing
        refine ⟨_, ?_, proper.consists_settings⟩
        intro result
        rw [nothing.mayLoad_iff, nothing.settings_eq]
        rfl
  · refine ⟨[(placeIn "resolver" "ip_address", .string defaultIp),
      (placeIn "resolver" "port", .integer defaultPort),
      (placeIn "query" "domain", .string ClientConfig.defaultDomain)], ⟨?_, ?_, ?_⟩, rfl⟩
    · decide
    · decide
    · decide
  · refine ⟨[(placeIn "server" "ip_address", .string defaultIp),
      (placeIn "server" "port", .integer defaultPort),
      (["ttl".toList], .integer ServerConfig.defaultTtl)], ⟨?_, ?_, ?_⟩, rfl⟩
    · decide
    · decide
    · decide

/-! ### Three values, of which two are in the same tables -/

def nestedDefaults : List (List Text × Plain) :=
  [(["a".toList, "b".toList, "c".toList], .integer 1), (["ttl".toList], .boolean true),
    (["a".toList, "b".toList, "d".toList], .string "x".toList)]

/-- A document that ends before it says anything. -/
def brokenFiles : Files := [(["broken.toml".toList], .file (Utf8.encode "a =".toList))]

def numberEntry (file key : String) (value : Int) (rest : SettingTable) : SettingTable :=
  .cons key.toList (.plain (some file.toList) (.integer value)) rest

/-- A document in which no keys meet. -/
def partedFiles : Files :=
  [(["parted.toml".toList], .file (Utf8.encode "TTL = 1\n[A]\nB = 2\n".toList))]

def partedEntries : SettingTable :=
  .cons "A".toList (.table (some "parted.toml".toList) (numberEntry "parted.toml" "B" 2 .nil))
    (numberEntry "parted.toml" "TTL" 1 .nil)

theorem document_partedFiles : document partedFiles "parted".toList = .ok partedEntries := by
  decide +kernel

/-- A document with two spellings of one key. -/
def meetingFiles : Files :=
  [(["meeting.toml".toList], .file (Utf8.encode "TTL = 1\nttl = 2\n".toList))]

def meetingEntries : SettingTable :=
  numberEntry "meeting.toml" "TTL" 1 (numberEntry "meeting.toml" "ttl" 2 .nil)

def otherMeetingEntries : SettingTable :=
  numberEntry "meeting.toml" "ttl" 2 (numberEntry "meeting.toml" "TTL" 1 .nil)

theorem document_meetingFiles : document meetingFiles "meeting".toList = .ok meetingEntries := by
  decide +kernel

theorem rearranges_meetingEntries :
    meetingEntries.Rearranges Setting.TakenWhole otherMeetingEntries := .swap _ _ _ _ _ _

/-- Without a file there is one result, and so there is for a file that is no document and for
one in which no keys meet. Where two keys meet, either may count, and the order of the defaults
has no part in this. -/
theorem settings_ignore_default_order_of_nested :
    (∃ tree, Setting.Consists nestedDefaults tree ∧
      ∀ result, MayGive (nestedDefaults.reverse.map dotted) [] "absent".toList result ↔
        result = .ok tree) ∧
      (∀ result, MayGive (nestedDefaults.reverse.map dotted) brokenFiles "broken".toList result ↔
        result = .error .document) ∧
      (∀ result, MayGive (nestedDefaults.reverse.map dotted) partedFiles "parted".toList result ↔
        result = settings (nestedDefaults.map Default.ofNames) partedFiles "parted".toList) ∧
      ∀ value ∈ [1, 2], ∃ tree,
        MayGive (nestedDefaults.reverse.map dotted) meetingFiles "meeting".toList (.ok tree) ∧
          tree.at? ["ttl".toList] =
            some (.plain (some "meeting.toml".toList) (.integer value)) := by
  have proper : Proper nestedDefaults := ⟨by decide, by decide, by decide⟩
  have reversed := nestedDefaults.reverse_perm
  rcases settings_ignore_default_order.1 nestedDefaults proper with ⟨defaults, made, _, settles⟩
  rw [proper.madeOf_dotted] at made
  cases made
  refine ⟨?_, ?_, ?_, ?_⟩
  · rcases settles [] "absent".toList with ⟨gives, _, _, nothing⟩
    have absent : SaysNothing [] "absent".toList := by
      left
      constructor
      · intro location bytes follow member
        cases member
      · intro front last split location bytes follow member
        cases member
    rcases nothing absent with ⟨tree, equal, consists⟩
    refine ⟨tree, consists, ?_⟩
    intro result
    rw [gives _ reversed, equal]
  · intro result
    have failed : document brokenFiles "broken".toList = .error .document := by decide +kernel
    rw [(settles brokenFiles "broken".toList).1 _ reversed, MayLoad, failed]
  · rcases settles partedFiles "parted".toList with ⟨gives, _, single, _⟩
    intro result
    rw [gives _ reversed]
    apply single
    intro entries read
    rw [document_partedFiles] at read
    cases read
    decide +kernel
  · simp only [(settles meetingFiles "meeting".toList).1 _ reversed, MayLoad,
      document_meetingFiles]
    intro value member
    rcases List.mem_pair.mp member with rfl | rfl
    · refine ⟨_, ⟨_, ⟨_, ⟨_, rearranges_meetingEntries, rfl⟩, _, .refl _ _, rfl⟩, rfl⟩, ?_⟩
      decide +kernel
    · refine ⟨_, ⟨_, ⟨_, ⟨_, .refl _ _, rfl⟩, _, .refl _ _, rfl⟩, rfl⟩, ?_⟩
      decide +kernel

end Config

end StubDns
