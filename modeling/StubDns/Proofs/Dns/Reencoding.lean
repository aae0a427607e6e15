import StubDns.Proofs.Dns.QueryRoundTrip

/-! # Writing queries that were read

A query that was read is written again from its domain. The bytes are those that were
read exactly if the domain keeps the labels apart: if each label is UTF-8 and has no
dot. Otherwise a label has become longer or several, and two changes cannot make up
for each other, because no label that is written again is so long that its length
byte wraps.
-/

namespace StubDns

/-- Between joined texts are dots, and each takes one byte. -/
theorem Utf8.length_encode_join {pieces : List Text} (some : pieces ≠ []) :
    (Utf8.encode (Text.join '.' pieces)).length + 1 =
      (pieces.map fun piece => 1 + (Utf8.encode piece).length).sum := by
  induction pieces with
  | nil => exact absurd rfl some
  | cons piece others induction =>
      by_cases last : others = []
      · subst last
        simp [Text.join, Nat.add_comm]
      · have dot : (Utf8.encodeChar '.').length = 1 := by decide
        rw [Text.join_cons_of_ne_nil piece last, Utf8.encode_append, Utf8.encode_cons,
          List.length_append, List.length_append, dot, List.map_cons, List.sum_cons,
          ← induction last]
        omega

namespace Name

/-! ## Labels without a dot -/

/-- A label that is the bytes of a text without a dot. -/
def Plain (label : List UInt8) : Prop := (∃ text, Utf8.encode text = label) ∧ 0x2E ∉ label

theorem dot_mem_encode_iff (text : Text) : 0x2E ∈ Utf8.encode text ↔ '.' ∈ text :=
  Utf8.mem_encode_iff_of_ascii (by decide) (by decide) text

theorem plain_encode_iff (text : Text) : Plain (Utf8.encode text) ↔ '.' ∉ text := by
  rw [Plain, dot_mem_encode_iff]
  exact and_iff_right ⟨text, rfl⟩

theorem Plain.encode_decodeLossy {label : List UInt8} (plain : Plain label) :
    Utf8.encode (Utf8.decodeLossy label) = label := by
  rcases plain with ⟨⟨text, equal⟩, -⟩
  rw [← equal, Utf8.decodeLossy_encode]

theorem Plain.dot_not_mem_decodeLossy {label : List UInt8} (plain : Plain label) :
    '.' ∉ Utf8.decodeLossy label := by
  rw [← plain_encode_iff, plain.encode_decodeLossy]
  exact plain

/-! ## The size of a name that is written again -/

/-- Reading labels as texts takes no bytes away, and adds at most two for each. -/
theorem sum_length_decodeLossy (labels : List (List UInt8)) :
    (labels.map fun label => 1 + label.length).sum ≤
        ((labels.map Utf8.decodeLossy).map fun piece => 1 + (Utf8.encode piece).length).sum ∧
      ((labels.map Utf8.decodeLossy).map fun piece => 1 + (Utf8.encode piece).length).sum ≤
        3 * (labels.map fun label => 1 + label.length).sum := by
  induction labels with
  | nil => simp
  | cons label labels induction =>
      have size := Utf8.length_encode_decodeLossy label
      simp only [List.map_cons, List.sum_cons]
      omega

theorem text_ne_nil {labels : List (List UInt8)} (readable : AllReadable labels)
    (some : labels ≠ []) : text labels ≠ [] := by
  intro empty
  have size := Utf8.length_encode_join (show labels.map Utf8.decodeLossy ≠ [] by simpa using some)
  have bound := (sum_length_decodeLossy labels).1
  change (Utf8.encode (text labels)).length + 1 = _ at size
  rw [empty, Utf8.encode_nil, List.length_nil] at size
  cases labels with
  | nil => exact some rfl
  | cons label labels =>
      have positive : 1 ≤ label.length := (readable label List.mem_cons_self).1
      rw [List.map_cons, List.sum_cons] at bound
      omega

theorem length_encode_text {labels : List (List UInt8)} (readable : AllReadable labels) :
    (encode (text labels)).length =
      ((labels.map Utf8.decodeLossy).map fun piece => 1 + (Utf8.encode piece).length).sum + 1 := by
  by_cases some : labels = []
  · subst some
    rfl
  · rw [length_encode_of_ne_nil (text_ne_nil readable some), text,
      ← Utf8.length_encode_join (show labels.map Utf8.decodeLossy ≠ [] by simpa using some)]

/-! ## Names that are written as they were read -/

theorem labels_text_of_plain {found : List (List UInt8)} (readable : AllReadable found)
    (plain : ∀ label ∈ found, Plain label) :
    labels (text found) = found.map Utf8.decodeLossy := by
  by_cases some : found = []
  · subst some
    rfl
  · rw [labels_of_ne_nil (text_ne_nil readable some), text]
    apply Text.cut_join_of_not_mem (by simpa using some)
    intro piece member
    rcases List.mem_map.mp member with ⟨label, labelMember, equal⟩
    rw [← equal]
    exact (plain label labelMember).dot_not_mem_decodeLossy

theorem encode_text_of_plain {found : List (List UInt8)} (readable : AllReadable found)
    (plain : ∀ label ∈ found, Plain label) :
    encode (text found) = encodeLabels found ++ [0] := by
  have same : (found.map Utf8.decodeLossy).map Utf8.encode = found := by
    have back : ∀ label ∈ found, (Utf8.encode ∘ Utf8.decodeLossy) label = label :=
      fun label member => (plain label member).encode_decodeLossy
    rw [List.map_map, List.map_congr_left back, List.map_id']
  rw [encode, labels_text_of_plain readable plain, same]

/-- Each label of a text that was read is so short that its length byte does not wrap. -/
theorem length_lt_of_mem_labels_text {found : List (List UInt8)} (readable : AllReadable found)
    {label : List UInt8} (member : label ∈ (labels (text found)).map Utf8.encode) :
    label.length < 256 := by
  apply length_lt_of_mem_labels _ member
  intro piece inside
  exact Nat.le_trans (length_le_of_mem_cut_text readable inside) (by decide)

theorem plain_of_mem_labels {domain : Text} {label : List UInt8}
    (member : label ∈ (labels domain).map Utf8.encode) : Plain label := by
  rcases List.mem_map.mp member with ⟨piece, pieceMember, equal⟩
  rw [← equal, plain_encode_iff]
  exact Text.not_mem_of_mem_cut (mem_cut_of_mem_labels pieceMember)

theorem encode_text_iff {found : List (List UInt8)} (readable : AllReadable found) :
    encode (text found) = encodeLabels found ++ [0] ↔ ∀ label ∈ found, Plain label := by
  constructor
  · intro equal
    have sameBytes := List.append_cancel_right equal
    have short : ∀ label ∈ found, label.length < 256 := fun label member =>
      Nat.lt_of_le_of_lt (readable label member).2 (by decide)
    have sameLabels := encodeLabels_injective
      (fun label member => length_lt_of_mem_labels_text readable member) short sameBytes
    intro label member
    rw [← sameLabels] at member
    exact plain_of_mem_labels member
  · exact encode_text_of_plain readable

end Name

namespace Query

/-! ## Queries that are written as they were read -/

section Reencoding

variable {bytes : List UInt8} {header : Header} {labels : List (List UInt8)}
  {qtype qclass : UInt16} {rest : List UInt8}

/-- What was read of a query are its header, its name, and two words. -/
theorem LabelsThen.take_question
    (starts : LabelsThen bytes header labels (Form.trailer qtype qclass rest)) :
    bytes.take (Header.size + (Form.query header labels qtype qclass).questionLength) =
      header.encode ++ ((Name.encodeLabels labels ++ [0])
        ++ (wordBytes qtype ++ wordBytes qclass)) := by
  rw [take_of_decode starts.decode_trailer, starts.questionBytes_eq]
  simp [Form.query, Form.trailer]

theorem encode_query (header : Header) (labels : List (List UInt8)) (qtype qclass : UInt16) :
    (Form.query header labels qtype qclass).encode =
      header.encode ++ (Name.encode (Name.text labels)
        ++ (wordBytes qtype ++ wordBytes qclass)) := by
  simp [encode, encodeQuestion, Form.query]

theorem encode_query_eq_take_iff
    (starts : LabelsThen bytes header labels (Form.trailer qtype qclass rest)) :
    (Form.query header labels qtype qclass).encode =
        bytes.take (Header.size + (Form.query header labels qtype qclass).questionLength) ↔
      ∀ label ∈ labels, Name.Plain label := by
  rw [encode_query, starts.take_question, List.append_cancel_left_eq, List.append_cancel_right_eq]
  exact Name.encode_text_iff starts.2.1

theorem length_encode_query (readable : Name.AllReadable labels) :
    Header.size + (Form.query header labels qtype qclass).questionLength ≤
        (Form.query header labels qtype qclass).encode.length ∧
      (Form.query header labels qtype qclass).encode.length ≤
        Header.size + 3 * (Form.query header labels qtype qclass).questionLength := by
  have sizes := Name.sum_length_decodeLossy labels
  rw [encode_query]
  simp only [List.length_append, Header.length_encode, length_wordBytes,
    Name.length_encode_text readable, Form.query]
  omega

/-- The header that is written is the header that was read. -/
theorem take_header_encode_query
    (starts : LabelsThen bytes header labels (Form.trailer qtype qclass rest)) :
    (Form.query header labels qtype qclass).encode.take Header.size = bytes.take Header.size := by
  rw [encode_query, starts.2.2, Header.take_encode_append, Header.take_encode_append]

theorem drop_words (front : List UInt8) (qtype qclass : UInt16) :
    (front ++ (wordBytes qtype ++ wordBytes qclass)).drop
      ((front ++ (wordBytes qtype ++ wordBytes qclass)).length - 4) =
        wordBytes qtype ++ wordBytes qclass := by
  rw [List.length_append]
  exact List.drop_left

theorem drop_words_encode_query (header : Header) (labels : List (List UInt8))
    (qtype qclass : UInt16) :
    (Form.query header labels qtype qclass).encode.drop
      ((Form.query header labels qtype qclass).encode.length - 4) =
        wordBytes qtype ++ wordBytes qclass := by
  rw [encode_query, ← List.append_assoc, drop_words]

theorem LabelsThen.drop_words_take
    (starts : LabelsThen bytes header labels (Form.trailer qtype qclass rest)) :
    (bytes.take (Header.size + (Form.query header labels qtype qclass).questionLength)).drop
      (Header.size + (Form.query header labels qtype qclass).questionLength - 4) =
        wordBytes qtype ++ wordBytes qclass := by
  have length := List.length_take_of_le (length_le_of_decode starts.decode_trailer)
  rw [starts.take_question, ← List.append_assoc] at length ⊢
  rw [← length, drop_words]

end Reencoding

/-- A query that was read is written as the bytes that it was read from exactly if each
label of its question is the bytes of a text without a dot. In any case these are at most
as many bytes as are written, and these at most three times as many for the question;
the header and the last two words are the same. -/
theorem encode_decode_eq_take_iff {bytes : List UInt8} {query : Query}
    (read : decode bytes = .ok query) :
    ∃ labels after, Name.readLabels (bytes.drop 12) = .ok (labels, after) ∧
      (query.encode = bytes.take (12 + query.questionLength) ↔
        ∀ label ∈ labels, (∃ text, Utf8.encode text = label) ∧ 0x2E ∉ label) ∧
      query.encode.take 12 = bytes.take 12 ∧
      query.encode.drop (query.encode.length - 4) =
        (bytes.take (12 + query.questionLength)).drop (12 + query.questionLength - 4) ∧
      12 + query.questionLength ≤ query.encode.length ∧
      query.encode.length ≤ 12 + 3 * query.questionLength := by
  rcases decode_eq_ok_iff.mp read with ⟨header, labels, qtype, qclass, rest, starts, equal⟩
  subst equal
  refine ⟨labels, _, starts.readLabels_drop, encode_query_eq_take_iff starts,
    take_header_encode_query starts, ?_, length_encode_query starts.2.1⟩
  rw [drop_words_encode_query]
  exact starts.drop_words_take.symm

/-- A byte that is no UTF-8 stands before a dot: the first label that is written is as
long as the label that was read, but not the same. -/
theorem encode_decode_eq_take_iff_of_hidden_dot :
    ∃ query, decode ((⟨7, 0, 1, 0, 0, 0⟩ : Header).encode
          ++ [3, 0xFF, 0x2E, 0x78, 0, 0, 1, 0, 1]) = .ok query ∧
      query.encode ≠ ((⟨7, 0, 1, 0, 0, 0⟩ : Header).encode
          ++ [3, 0xFF, 0x2E, 0x78, 0, 0, 1, 0, 1]).take (12 + query.questionLength) := by
  have starts : LabelsThen ((⟨7, 0, 1, 0, 0, 0⟩ : Header).encode
      ++ [3, 0xFF, 0x2E, 0x78, 0, 0, 1, 0, 1]) ⟨7, 0, 1, 0, 0, 0⟩ [[0xFF, 0x2E, 0x78]]
      (Form.trailer 1 1 []) := ⟨by decide, by decide, rfl⟩
  rcases encode_decode_eq_take_iff starts.decode_trailer with ⟨labels, after, reads, same, -⟩
  refine ⟨_, starts.decode_trailer, ?_⟩
  rw [Ne, same]
  intro plain
  have found := starts.readLabels_drop
  rw [Header.size, reads, Except.ok.injEq, Prod.mk.injEq] at found
  rw [found.1] at plain
  exact absurd (plain _ List.mem_cons_self).2 (by decide)

end Query

end StubDns
