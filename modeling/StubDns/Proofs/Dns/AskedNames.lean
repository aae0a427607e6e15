import StubDns.Proofs.Dns.RecordLookup
import StubDns.Proofs.Dns.Reencoding
import StubDns.Proofs.Dns.ResponseFormat
import StubDns.Proofs.Text.AsciiLetters

/-! # Names that are asked for

A question spells a name label by label, and records are found by the text of the labels.
The text of labels that are UTF-8 without a dot spells them again, so that an answer is
given for the name that was asked for. Other labels spell no name at all, but their text
can be that of one.
-/

namespace StubDns

namespace Name

/-! ## Spelling -/

/-- Labels spell a name: they are its labels, byte by byte up to the case of ASCII letters. -/
def Spells (found : List (List UInt8)) (name : Text) : Prop :=
  (labels name).map (fun label => (Utf8.encode label).map foldByte) =
    found.map fun label => label.map foldByte

instance (found : List (List UInt8)) (name : Text) : Decidable (Spells found name) :=
  inferInstanceAs (Decidable (_ = _))

theorem foldByte_dot : foldByte 0x2E = 0x2E := by decide

theorem labels_foldAscii (name : Text) :
    labels (Text.foldAscii name) = (labels name).map Text.foldAscii := by
  by_cases empty : name = []
  · rw [empty]
    rfl
  · have foldedSome : Text.foldAscii name ≠ [] := by simpa [Text.foldAscii] using empty
    rw [labels_of_ne_nil empty, labels_of_ne_nil foldedSome, Text.cut_foldAscii]

theorem dot_not_mem_of_mem_labels {name piece : Text} (member : piece ∈ labels name) :
    '.' ∉ piece := by
  rw [← plain_encode_iff]
  exact plain_of_mem_labels (List.mem_map_of_mem member)

/-- A label that is spelled like a piece without a dot is UTF-8 without a dot. -/
theorem plain_of_map_foldByte_eq {piece : Text} {label : List UInt8} (noDot : '.' ∉ piece)
    (equal : (Utf8.encode piece).map foldByte = label.map foldByte) : Plain label := by
  constructor
  · apply Utf8.exists_encode_of_map_foldByte
    rw [← equal, Utf8.encode_foldAscii]
  · intro dot
    have folded : 0x2E ∈ label.map foldByte := List.mem_map.mpr ⟨0x2E, dot, foldByte_dot⟩
    rw [← equal, ← Utf8.encode_foldAscii, dot_mem_encode_iff] at folded
    rcases List.mem_map.mp folded with ⟨char, member, same⟩
    rw [(Text.foldChar_eq_dot_iff char).mp same] at member
    exact noDot member

theorem Plain.map_foldByte {label : List UInt8} (plain : Plain label) :
    label.map foldByte = Utf8.encode (Text.foldAscii (Utf8.decodeLossy label)) := by
  rw [Utf8.encode_foldAscii, plain.encode_decodeLossy]

theorem Spells.plain {found : List (List UInt8)} {name : Text} (spells : Spells found name) :
    ∀ label ∈ found, Plain label := by
  intro label member
  have folded : label.map foldByte ∈ found.map fun label => label.map foldByte :=
    List.mem_map_of_mem member
  rw [← spells] at folded
  rcases List.mem_map.mp folded with ⟨piece, pieceMember, equal⟩
  exact plain_of_map_foldByte_eq (dot_not_mem_of_mem_labels pieceMember) equal

theorem spells_iff_of_plain {found : List (List UInt8)} {name : Text}
    (readable : AllReadable found) (plain : ∀ label ∈ found, Plain label) :
    Spells found name ↔ Text.foldAscii name = Text.foldAscii (text found) := by
  have spelled : found.map (fun label => label.map foldByte) =
      (labels (Text.foldAscii (text found))).map Utf8.encode := by
    rw [labels_foldAscii, labels_text_of_plain readable plain, List.map_map, List.map_map]
    exact List.map_congr_left fun label member => (plain label member).map_foldByte
  have written : (labels name).map (fun label => (Utf8.encode label).map foldByte) =
      (labels (Text.foldAscii name)).map Utf8.encode := by
    rw [labels_foldAscii, List.map_map]
    exact List.map_congr_left fun label _ => (Utf8.encode_foldAscii label).symm
  rw [Spells, spelled, written]
  constructor
  · intro equal
    have same := congrArg text equal
    rwa [text_labels, text_labels] at same
  · intro equal
    rw [equal]

/-- Labels spell a name exactly if each is UTF-8 without a dot and their text is the name, up
to the case of ASCII letters. -/
theorem spells_iff {found : List (List UInt8)} {name : Text} (readable : AllReadable found) :
    Spells found name ↔
      (∀ label ∈ found, Plain label) ∧ Text.foldAscii name = Text.foldAscii (text found) := by
  constructor
  · intro spells
    exact ⟨spells.plain, (spells_iff_of_plain readable spells.plain).mp spells⟩
  · intro ⟨plain, equal⟩
    exact (spells_iff_of_plain readable plain).mpr equal

end Name

namespace RecordTable

/-! ## Answers -/

theorem answers_eq_nil_iff {table : RecordTable} {query : Query}
    (qtype : query.qtype = QueryOptions.typeA) (qclass : query.qclass = QueryOptions.classIn) :
    table.answers query = [] ↔ table.lookup query.domain = none := by
  rw [answers, answer?_eq_lookup qtype qclass]
  cases table.lookup query.domain <;> simp

theorem answers_make_ne_nil_iff {records : AddressBook} {ttl : UInt32} {query : Query}
    (qtype : query.qtype = QueryOptions.typeA) (qclass : query.qclass = QueryOptions.classIn) :
    (make records ttl).answers query ≠ [] ↔
      ∃ entry ∈ records, Text.foldAscii entry.1 = Text.foldAscii query.domain := by
  rw [Ne, answers_eq_nil_iff qtype qclass, lookup_make_eq_none_iff]
  simp

/-- A question for an address is answered exactly if the text of its labels is a name of the
records, up to the case of ASCII letters. Its labels spell a name of the records exactly if
it is answered and each label is UTF-8 without a dot. -/
theorem answered_iff_known_text (records : AddressBook) (ttl : UInt32) {request : List UInt8}
    {query : Query} (read : Query.decode request = .ok query) (qtype : query.qtype = 1)
    (qclass : query.qclass = 1) :
    ∃ labels after header answers response,
      Name.readLabels (request.drop 12) = .ok (labels, after) ∧
      (make records ttl).respond? request query = some response ∧
      WellFormed (make records ttl) request query header answers response ∧
      (answers ≠ [] ↔
        ∃ entry ∈ records, Text.foldAscii entry.1 = Text.foldAscii (Name.text labels)) ∧
      ((∃ entry ∈ records, Name.Spells labels entry.1) ↔
        answers ≠ [] ∧ ∀ label ∈ labels, (∃ text, Utf8.encode text = label) ∧ 0x2E ∉ label) := by
  rcases Query.decode_eq_ok_iff.mp read with ⟨header, labels, _, _, _, starts, equal⟩
  have domain : query.domain = Name.text labels := by
    rw [equal]
    rfl
  have answered : (make records ttl).answers query ≠ [] ↔ _ :=
    answers_make_ne_nil_iff qtype qclass
  rw [domain] at answered
  refine ⟨labels, _, _, _, _, starts.readLabels_drop, respond?_of_decode read,
    wellFormed_response read, answered, ?_⟩
  rw [answered]
  constructor
  · intro ⟨entry, member, spells⟩
    have spelled := (Name.spells_iff starts.2.1).mp spells
    exact ⟨⟨entry, member, spelled.2⟩, spelled.1⟩
  · intro ⟨⟨entry, member, same⟩, plain⟩
    exact ⟨entry, member, (Name.spells_iff starts.2.1).mpr ⟨plain, same⟩⟩

/-- A name is spelled in another case, and the question is answered. -/
theorem answered_iff_known_text_in_other_case :
    ∃ query header answers response,
      Query.decode (Query.make "z.CN".toList .standard).encode = .ok query ∧
      (make [("Z.cn".toList, ⟨1, 2, 3, 4⟩)] 60).respond?
        (Query.make "z.CN".toList .standard).encode query = some response ∧
      WellFormed (make [("Z.cn".toList, ⟨1, 2, 3, 4⟩)] 60)
        (Query.make "z.CN".toList .standard).encode query header answers response ∧
      answers ≠ [] := by
  have starts : Query.LabelsThen (Query.make "z.CN".toList .standard).encode
      ⟨0x0A0B, 0x0100, 1, 0, 0, 0⟩ [[0x7A], [0x43, 0x4E]] (Query.Form.trailer 1 1 []) :=
    ⟨by decide, by decide, by decide⟩
  rcases answered_iff_known_text [("Z.cn".toList, ⟨1, 2, 3, 4⟩)] 60 starts.decode_trailer rfl rfl
    with ⟨labels, after, header, answers, response, reads, made, wellFormed, -, spelled⟩
  have found := starts.readLabels_drop
  rw [Header.size, reads, Except.ok.injEq, Prod.mk.injEq] at found
  rw [found.1] at spelled
  have spells : Name.Spells [[0x7A], [0x43, 0x4E]] "Z.cn".toList := by decide
  have answered := (spelled.mp ⟨_, List.mem_cons_self, spells⟩).1
  exact ⟨_, header, answers, response, starts.decode_trailer, made, wellFormed, answered⟩

/-- A question with one label that holds a dot gets the answer for a name of two labels. -/
theorem answered_of_label_with_dot :
    ∃ query header answers response,
      Query.decode ((⟨0x0A0B, 0x0100, 1, 0, 0, 0⟩ : Header).encode
          ++ [3, 0x61, 0x2E, 0x62, 0, 0, 1, 0, 1]) = .ok query ∧
      query.qtype = 1 ∧ query.qclass = 1 ∧
      Name.readLabels [3, 0x61, 0x2E, 0x62, 0, 0, 1, 0, 1] =
        .ok ([[0x61, 0x2E, 0x62]], [0, 1, 0, 1]) ∧
      (make [("a.b".toList, ⟨1, 2, 3, 4⟩)] 60).respond?
        ((⟨0x0A0B, 0x0100, 1, 0, 0, 0⟩ : Header).encode
          ++ [3, 0x61, 0x2E, 0x62, 0, 0, 1, 0, 1]) query = some response ∧
      WellFormed (make [("a.b".toList, ⟨1, 2, 3, 4⟩)] 60)
        ((⟨0x0A0B, 0x0100, 1, 0, 0, 0⟩ : Header).encode
          ++ [3, 0x61, 0x2E, 0x62, 0, 0, 1, 0, 1]) query header answers response ∧
      answers ≠ [] ∧ ¬ ∃ entry ∈ [("a.b".toList, (⟨1, 2, 3, 4⟩ : Ipv4))],
        Name.Spells [[0x61, 0x2E, 0x62]] entry.1 := by
  have starts : Query.LabelsThen ((⟨0x0A0B, 0x0100, 1, 0, 0, 0⟩ : Header).encode
      ++ [3, 0x61, 0x2E, 0x62, 0, 0, 1, 0, 1]) ⟨0x0A0B, 0x0100, 1, 0, 0, 0⟩
      [[0x61, 0x2E, 0x62]] (Query.Form.trailer 1 1 []) := ⟨by decide, by decide, rfl⟩
  have read := starts.decode_trailer
  refine ⟨_, _, _, _, read, rfl, rfl, starts.readLabels_drop, respond?_of_decode read,
    wellFormed_response read, ?_, ?_⟩
  · have text : Name.text [[0x61, 0x2E, 0x62]] = "a.b".toList :=
      Utf8.decodeLossy_encode "a.b".toList
    apply (answers_make_ne_nil_iff rfl rfl).mpr
    exact ⟨_, List.mem_cons_self, congrArg Text.foldAscii text.symm⟩
  · intro ⟨entry, member, spells⟩
    exact absurd (spells.plain _ List.mem_cons_self).2 (by decide)

end RecordTable

end StubDns
