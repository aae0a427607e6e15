import Mathlib.Data.List.Nodup
import StubDns.Dns.RecordTable

/-! # Looking up records

A table is made by giving one name after the other its address. The last address
of a name stays, and where names that differ only in the case of ASCII letters
agree on their address, the order does not matter: a domain has exactly the
addresses of the records with its name.
-/

namespace StubDns

namespace AddressBook

theorem find?_foldl_insert (entries : List (Text × Ipv4)) (book : AddressBook)
    (name : Text) :
    (entries.foldl (fun book entry => book.insert entry.1 entry.2) book).find? name =
      ((entries.reverse.find? fun entry => entry.1 = name).map (·.2)).or (book.find? name) := by
  induction entries generalizing book with
  | nil => rfl
  | cons entry rest induction =>
      rw [List.foldl_cons, induction, find?_insert, List.reverse_cons, List.find?_append]
      cases rest.reverse.find? fun entry => entry.1 = name with
      | some later => rfl
      | none => by_cases here : entry.1 = name <;> simp [here]

/-- The last address that a name is given is found. -/
theorem find?_ofList (entries : List (Text × Ipv4)) (name : Text) :
    (ofList entries).find? name =
      (entries.reverse.find? fun entry => entry.1 = name).map (·.2) := by
  rw [ofList, find?_foldl_insert]
  exact Option.or_none

theorem find?_ofList_eq_some_iff {entries : List (Text × Ipv4)}
    (agree : ∀ left ∈ entries, ∀ right ∈ entries, left.1 = right.1 → left.2 = right.2)
    {name : Text} {address : Ipv4} :
    (ofList entries).find? name = some address ↔ (name, address) ∈ entries := by
  rw [find?_ofList]
  constructor
  · intro found
    rcases Option.map_eq_some_iff.mp found with ⟨entry, last, equal⟩
    have member := List.mem_of_find?_eq_some last
    have sameName : entry.1 = name := by simpa using List.find?_some last
    rw [← equal, ← sameName]
    exact List.mem_reverse.mp member
  · intro member
    cases last : entries.reverse.find? fun entry => entry.1 = name with
    | none =>
        have absent := List.find?_eq_none.mp last (name, address) (List.mem_reverse.mpr member)
        simp at absent
    | some entry =>
        have found := List.mem_reverse.mp (List.mem_of_find?_eq_some last)
        have sameName : entry.1 = name := by simpa using List.find?_some last
        rw [Option.map_some, agree entry found (name, address) member sameName]

theorem mem_of_find?_eq_some {book : AddressBook} {name : Text} {address : Ipv4}
    (found : book.find? name = some address) : (name, address) ∈ book := by
  induction book with
  | nil => cases found
  | cons entry rest induction =>
      rw [find?] at found
      split at found
      · next here =>
          cases found
          rw [← here]
          exact List.mem_cons_self
      · exact List.mem_cons_of_mem entry (induction found)

/-- Names that differ only in the case of ASCII letters have the same address. -/
def CaseConsistent (records : AddressBook) : Prop :=
  ∀ left ∈ records, ∀ right ∈ records,
    Text.foldAscii left.1 = Text.foldAscii right.1 → left.2 = right.2

theorem caseConsistent_of_nodup {records : AddressBook}
    (distinct : (records.map fun entry => Text.foldAscii entry.1).Nodup) :
    CaseConsistent records := by
  intro left leftMember right rightMember equal
  rw [List.inj_on_of_nodup_map distinct leftMember rightMember equal]

end AddressBook

namespace RecordTable

/-- A domain has exactly the addresses of the records with its name, up to the
case of ASCII letters. -/
theorem lookup_make_eq_some_iff {records : AddressBook} (consistent : records.CaseConsistent)
    {ttl : UInt32} {domain : Text} {address : Ipv4} :
    (make records ttl).lookup domain = some address ↔
      ∃ name, (name, address) ∈ records ∧ Text.foldAscii name = Text.foldAscii domain := by
  have agree : ∀ left ∈ records.map fun entry => (Text.foldAscii entry.1, entry.2),
      ∀ right ∈ records.map fun entry => (Text.foldAscii entry.1, entry.2),
        left.1 = right.1 → left.2 = right.2 := by
    intro left leftMember right rightMember equal
    rcases List.mem_map.mp leftMember with ⟨leftEntry, leftFound, rfl⟩
    rcases List.mem_map.mp rightMember with ⟨rightEntry, rightFound, rfl⟩
    exact consistent leftEntry leftFound rightEntry rightFound equal
  rw [lookup, make, AddressBook.find?_ofList_eq_some_iff agree]
  constructor
  · intro member
    rcases List.mem_map.mp member with ⟨entry, found, equal⟩
    simp only [Prod.mk.injEq] at equal
    exact ⟨entry.1, equal.2 ▸ found, equal.1⟩
  · rintro ⟨name, found, equal⟩
    rw [← equal]
    exact List.mem_map.mpr ⟨(name, address), found, rfl⟩

/-- A domain is unknown exactly if no record has its name, also where names that differ only
in case disagree. -/
theorem lookup_make_eq_none_iff {records : AddressBook} {ttl : UInt32} {domain : Text} :
    (make records ttl).lookup domain = none ↔
      ∀ name address, (name, address) ∈ records →
        Text.foldAscii name ≠ Text.foldAscii domain := by
  rw [lookup, make, AddressBook.find?_ofList, Option.map_eq_none_iff, List.find?_eq_none]
  constructor
  · intro unknown name address member equal
    have folded : (Text.foldAscii name, address) ∈
        records.map fun entry => (Text.foldAscii entry.1, entry.2) :=
      List.mem_map.mpr ⟨(name, address), member, rfl⟩
    have different := unknown _ (List.mem_reverse.mpr folded)
    exact absurd equal (by simpa using different)
  · intro absent entry member
    rcases List.mem_map.mp (List.mem_reverse.mp member) with ⟨original, found, equal⟩
    rw [← equal]
    simpa using absent original.1 original.2 found

end RecordTable

end StubDns
