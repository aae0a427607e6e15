import Mathlib.Data.Finset.Card
import StubDns.Proofs.Config.Records
import StubDns.Proofs.Dns.ResponseFormat

/-! # The order of records

A table is made of records in some order. As long as names that differ only in case agree on
their address, the order is not seen: not in what is found, not in the number of names and
not in a response. Loaded records agree, since their names have no capital letters and each
is there once; so none of them is lost in the table.
-/

namespace StubDns

namespace AddressBook

/-! ## Names of a book -/

def names (book : AddressBook) : List Text := book.map (·.1)

@[simp] theorem names_nil : names [] = [] := rfl

@[simp] theorem names_cons (entry : Text × Ipv4) (rest : AddressBook) :
    names (entry :: rest) = entry.1 :: names rest := rfl

theorem mem_names_insert {name other : Text} {address : Ipv4} {book : AddressBook} :
    other ∈ (book.insert name address).names ↔ other = name ∨ other ∈ book.names := by
  induction book with
  | nil => simp [insert]
  | cons entry rest induction =>
      rw [insert]
      split
      · next here => simp only [names_cons, here, List.mem_cons, or_self_left]
      · simp only [names_cons, List.mem_cons, induction, or_left_comm]

theorem nodup_names_insert {name : Text} {address : Ipv4} {book : AddressBook}
    (once : book.names.Nodup) : (book.insert name address).names.Nodup := by
  induction book with
  | nil => exact List.nodup_singleton name
  | cons entry rest induction =>
      have parts := List.nodup_cons.mp once
      rw [insert]
      split
      · next here =>
          rw [names_cons, ← here]
          exact once
      · next different =>
          rw [names_cons, List.nodup_cons, mem_names_insert]
          exact ⟨fun either => either.elim different parts.1, induction parts.2⟩

theorem nodup_names_foldl {entries book : AddressBook} (once : book.names.Nodup) :
    (entries.foldl (fun book entry => book.insert entry.1 entry.2) book).names.Nodup := by
  induction entries generalizing book with
  | nil => exact once
  | cons entry rest induction => exact induction (nodup_names_insert once)

theorem mem_names_foldl {entries book : AddressBook} {name : Text} :
    name ∈ (entries.foldl (fun book entry => book.insert entry.1 entry.2) book).names ↔
      name ∈ entries.names ∨ name ∈ book.names := by
  induction entries generalizing book with
  | nil => simp
  | cons entry rest induction =>
      rw [List.foldl_cons, induction, mem_names_insert, names_cons, List.mem_cons]
      tauto

/-- A book has each name of its entries once. -/
theorem length_ofList (entries : AddressBook) :
    (ofList entries).length = entries.names.toFinset.card := by
  have once : (ofList entries).names.Nodup := nodup_names_foldl List.nodup_nil
  have same : entries.names.toFinset = (ofList entries).names.toFinset := by
    ext name
    rw [List.mem_toFinset, List.mem_toFinset, ofList, mem_names_foldl]
    simp
  rw [same, List.toFinset_card_of_nodup once, names, List.length_map]

end AddressBook

namespace RecordTable

/-! ## Tables made in any order -/

/-- A table has as many names as there are names that are not the same up to case. -/
theorem size_make (records : AddressBook) (ttl : UInt32) :
    (make records ttl).size =
      (records.map fun entry => Text.foldAscii entry.1).toFinset.card := by
  rw [size, make, AddressBook.length_ofList, AddressBook.names, List.map_map]
  rfl

theorem size_make_of_small {records : AddressBook}
    (small : ∀ entry ∈ records, Text.foldAscii entry.1 = entry.1)
    (once : (records.map (·.1)).Nodup) (ttl : UInt32) :
    (make records ttl).size = records.length := by
  rw [size_make, List.map_congr_left small, List.toFinset_card_of_nodup once, List.length_map]

/-- Tables that find the same are seen as the same. -/
theorem respond?_congr_of_lookup {left right : RecordTable} (ttl : left.ttl = right.ttl)
    (found : left.lookup = right.lookup) (request : List UInt8) (query : Query) :
    left.respond? request query = right.respond? request query := by
  by_cases enough : Header.size + query.questionLength ≤ request.length
  · have parts := response_parts_congr ttl rfl rfl rfl (congrFun found query.domain)
    rw [respond?_eq_some enough, respond?_eq_some enough, response, response, parts.1, parts.2]
  · have short := Nat.lt_of_not_le enough
    rw [respond?, respond?, if_pos short, if_pos short]

section Order

variable {records order : AddressBook}

theorem lookup_make_eq_some_iff_of_perm (consistent : records.CaseConsistent)
    (sameEntries : order.Perm records) {ttl : UInt32} {domain : Text} {address : Ipv4} :
    (make order ttl).lookup domain = some address ↔
      ∃ name, (name, address) ∈ records ∧ Text.foldAscii name = Text.foldAscii domain := by
  have orderConsistent : order.CaseConsistent := fun left leftMember right rightMember =>
    consistent left (sameEntries.mem_iff.mp leftMember) right (sameEntries.mem_iff.mp rightMember)
  simp only [lookup_make_eq_some_iff orderConsistent, sameEntries.mem_iff]

theorem lookup_make_of_perm (consistent : records.CaseConsistent)
    (sameEntries : order.Perm records) (ttl : UInt32) :
    (make order ttl).lookup = (make records ttl).lookup := by
  funext domain
  apply Option.ext
  intro address
  rw [lookup_make_eq_some_iff_of_perm consistent sameEntries, lookup_make_eq_some_iff consistent]

end Order

/-- A table that is made of consistent records in any order has one entry for all names that
are the same up to case, finds for a domain just the addresses of the records with its name
up to case, and responds like the table made in the given order. Loaded records are
consistent, since their names are small, and none of them is lost. -/
theorem make_ignores_order :
    (∀ (records order : AddressBook) (ttl : UInt32), records.CaseConsistent →
      order.Perm records →
        (make order ttl).size =
          (records.map fun entry => Text.foldAscii entry.1).toFinset.card ∧
        (∀ domain address, (make order ttl).lookup domain = some address ↔
          ∃ name, (name, address) ∈ records ∧ Text.foldAscii name = Text.foldAscii domain) ∧
        ∀ request query,
          (make order ttl).respond? request query = (make records ttl).respond? request query) ∧
    ∀ files path config, ServerConfig.load files path = .ok config →
      config.records.CaseConsistent ∧
      (∀ entry ∈ config.records,
        Text.lower entry.1 = entry.1 ∧ Text.foldAscii entry.1 = entry.1) ∧
      (config.records.map (·.1)).Nodup ∧
      ∀ order : AddressBook, order.Perm config.records →
        (make order config.ttl).size = config.records.length := by
  constructor
  · intro records order ttl consistent sameEntries
    refine ⟨?_, ?_, ?_⟩
    · rw [size_make, List.toFinset_eq_of_perm _ _ (sameEntries.map _)]
    · intro domain address
      exact lookup_make_eq_some_iff_of_perm consistent sameEntries
    · exact respond?_congr_of_lookup rfl (lookup_make_of_perm consistent sameEntries ttl)
  · intro files path config loaded
    have names := ServerConfig.names_of_load loaded
    have small := ServerConfig.foldAscii_of_load loaded
    refine ⟨ServerConfig.caseConsistent_of_load loaded,
      fun entry member => ⟨names.1 entry member, small entry member⟩, names.2, ?_⟩
    intro order sameEntries
    have orderSmall : ∀ entry ∈ order, Text.foldAscii entry.1 = entry.1 := fun entry member =>
      small entry (sameEntries.mem_iff.mp member)
    rw [size_make_of_small orderSmall ((sameEntries.map _).nodup_iff.mpr names.2),
      sameEntries.length_eq]

def twoCases : AddressBook :=
  [("z.CN".toList, ⟨1, 2, 3, 4⟩), ("Z.cn".toList, ⟨1, 2, 3, 4⟩), ("b.fr".toList, ⟨5, 6, 7, 8⟩)]

def capitalFiles : Files :=
  [(["zone.toml".toList], .file (Utf8.encode
    "[records]\n\"Z.cn\" = \"1.2.3.4\"\n\"É.fr\" = \"5.6.7.8\"\n".toList))]

/-- Two of three names are the same up to case. -/
theorem make_ignores_order_of_two_cases :
    (make twoCases 60).size = 2 ∧
      (make twoCases 60).lookup "Z.CN".toList = some ⟨1, 2, 3, 4⟩ ∧
      (∀ request query, (make twoCases 60).respond? request query =
        (make twoCases.reverse 60).respond? request query) ∧
      ∃ config, ServerConfig.load capitalFiles "zone".toList = .ok config ∧
        config.table.size = 2 := by
  have consistent : AddressBook.CaseConsistent twoCases.reverse := by
    unfold AddressBook.CaseConsistent
    decide
  rcases make_ignores_order with ⟨any, loaded⟩
  rcases any _ twoCases 60 consistent twoCases.reverse_perm.symm with ⟨size, found, same⟩
  have load : ServerConfig.load capitalFiles "zone".toList =
      .ok ⟨⟨.loopback, 2053⟩, 60,
        [("z.cn".toList, ⟨1, 2, 3, 4⟩), ("é.fr".toList, ⟨5, 6, 7, 8⟩)]⟩ := by
    decide +kernel
  refine ⟨size.trans (by decide), (found _ _).mpr ⟨"Z.cn".toList, by decide, by decide⟩, same, _,
    load, ?_⟩
  exact (loaded _ _ _ load).2.2.2 _ (.refl _)

end RecordTable

end StubDns
