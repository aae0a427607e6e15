import StubDns.Proofs.Dns.NameWriting
import StubDns.Proofs.Dns.QueryStability

/-! # Reading queries that were written

A query for a domain that can be a name is read back unchanged, also with bytes
behind it. For any other domain the first label that no name can hold decides:
an empty one, or one whose length byte is zero by the wrap, ends the name early; a
long one is refused; and where the length byte wraps to a small number, the
reader goes on inside of the label, but never finds a label as long again.
-/

namespace StubDns.Query

/-! ## Written queries -/

/-- A question is written as its labels and what follows them. -/
theorem encodeQuestion_eq (domain : Text) (qtype qclass : UInt16) (rest : List UInt8) :
    encodeQuestion domain qtype qclass ++ rest =
      Name.encodeLabels ((Name.labels domain).map Utf8.encode)
        ++ Form.trailer qtype qclass rest := by
  simp [encodeQuestion, Name.encode, Form.trailer]

theorem length_encodeQuestion (domain : Text) (qtype qclass : UInt16) :
    (encodeQuestion domain qtype qclass).length = (Name.encode domain).length + 4 := by
  simp [encodeQuestion]

theorem length_encode_make (domain : Text) (options : QueryOptions) :
    (make domain options).encode.length =
      Header.size + (make domain options).questionLength := by
  rw [encode, List.length_append, Header.length_encode]
  rfl

/-- A new query holds its question. -/
theorem length_le_encode_make (domain : Text) (options : QueryOptions) :
    Header.size + (make domain options).questionLength ≤ (make domain options).encode.length :=
  Nat.le_of_eq (length_encode_make domain options).symm

theorem questionLength_make {domain : Text} (nonempty : domain ≠ []) (options : QueryOptions) :
    (make domain options).questionLength = (Utf8.encode domain).length + 6 := by
  change (encodeQuestion domain options.qtype options.qclass).length = _
  rw [length_encodeQuestion, Name.length_encode_of_ne_nil nonempty]

/-- All behind the header of a new query is its question. -/
theorem questionBytes_make (domain : Text) (options : QueryOptions) :
    (make domain options).questionBytes (make domain options).encode =
      (make domain options).encode.drop Header.size := by
  have length : ((make domain options).encode.drop Header.size).length =
      (make domain options).questionLength := by
    rw [List.length_drop, length_encode_make, Nat.add_sub_cancel_left]
  exact List.take_of_length_le (Nat.le_of_eq length)

/-! ## Reading back -/

/-- The query that is read of a question for a domain that can be a name. -/
theorem query_labels (header : Header) (domain : Text) (qtype qclass : UInt16) :
    Form.query header ((Name.labels domain).map Utf8.encode) qtype qclass = {
      header := header
      domain := domain
      qtype := qtype
      qclass := qclass
      questionLength := (encodeQuestion domain qtype qclass).length } := by
  have length : (encodeQuestion domain qtype qclass).length =
      (((Name.labels domain).map Utf8.encode).map fun label => 1 + label.length).sum + 5 := by
    rw [length_encodeQuestion, Name.encode, List.length_append, Name.length_encodeLabels]
    rfl
  rw [length, Form.query, Name.text_labels]

theorem decode_encodeQuestion {domain : Text} (writable : Name.Writable domain)
    {header : Header} (announced : header.questions ≠ 0) (qtype qclass : UInt16)
    (rest : List UInt8) :
    decode (header.encode ++ (encodeQuestion domain qtype qclass ++ rest)) = .ok {
      header := header
      domain := domain
      qtype := qtype
      qclass := qclass
      questionLength := (encodeQuestion domain qtype qclass).length } := by
  have starts : LabelsThen (header.encode ++ (encodeQuestion domain qtype qclass ++ rest))
      header ((Name.labels domain).map Utf8.encode) (Form.trailer qtype qclass rest) :=
    ⟨announced, (Name.writable_iff domain).mp writable, by rw [encodeQuestion_eq]⟩
  rw [starts.decode_trailer, query_labels]

theorem questions_make_ne_zero (domain : Text) (options : QueryOptions) :
    (make domain options).header.questions ≠ 0 := by
  change (1 : UInt16) ≠ 0
  decide

theorem decode_encode_make {domain : Text} (writable : Name.Writable domain)
    (options : QueryOptions) :
    decode (make domain options).encode = .ok (make domain options) := by
  have announced := questions_make_ne_zero domain options
  have read := decode_encodeQuestion writable announced options.qtype options.qclass []
  rw [List.append_nil] at read
  exact read

/-! ## Other domains -/

/-- A query is written as its header, its labels, and what follows these. -/
theorem encode_eq_labels (query : Query) :
    query.encode = query.header.encode
      ++ (Name.encodeLabels ((Name.labels query.domain).map Utf8.encode)
        ++ Form.trailer query.qtype query.qclass []) := by
  rw [← encodeQuestion_eq, List.append_nil]
  rfl

/-- A query that is read for the domain it was written for has a domain that can
be a name. -/
theorem writable_of_decode_encode {written query : Query}
    (read : decode written.encode = .ok query) (same : query.domain = written.domain) :
    Name.Writable written.domain := by
  rcases decode_eq_ok_iff.mp read with
    ⟨header, found, qtype, qclass, rest, ⟨-, readable, split⟩, equal⟩
  have headers := Header.encode_append_inj ((encode_eq_labels written).symm.trans split)
  have labels := readLabels_trailer readable qtype qclass rest
  rw [← headers.2] at labels
  have back : Name.text found = written.domain := by
    rw [← same, equal]
    rfl
  exact Name.writable_of_readLabels labels back

/-- The result of reading is the query that was written exactly for the domains
that can be names. For any other domain it is an error or another domain. -/
theorem decode_encode_make_iff (domain : Text) (options : QueryOptions) :
    (decode (make domain options).encode = .ok (make domain options) ↔
        Name.Writable domain) ∧
      (¬ Name.Writable domain →
        (∃ error, decode (make domain options).encode = .error error) ∨
          ∃ query, decode (make domain options).encode = .ok query ∧
            query.domain ≠ domain) := by
  constructor
  · constructor
    · intro read
      exact writable_of_decode_encode read rfl
    · intro writable
      exact decode_encode_make writable options
  · intro notWritable
    cases read : decode (make domain options).encode with
    | error error => exact .inl ⟨error, rfl⟩
    | ok query =>
        refine .inr ⟨query, rfl, ?_⟩
        intro same
        exact notWritable (writable_of_decode_encode read same)

end StubDns.Query
