import StubDns.Proofs.Dns.Reencoding

/-! # Reading what was written again

A query that was read can be written and then read once more. The first label that no
name can hold decides what this gives. There may be none, and the query comes back. Dots
in a label may have left an empty one, and the name ends there; what follows is always
enough for the rest of a question. Or replacements have made a label too long, though
never so long that its length byte wraps, and the query is refused.
-/

namespace StubDns.Query

/-! ## Forms of written queries -/

section Written

variable {query : Query}

theorem labelsThen_of_writable (announced : query.header.questions ≠ 0)
    (writable : Name.Writable query.domain) :
    LabelsThen query.encode query.header ((Name.labels query.domain).map Utf8.encode)
      (Form.trailer query.qtype query.qclass []) :=
  ⟨announced, (Name.writable_iff query.domain).mp writable, encode_eq_labels query⟩

/-- What is written around one of the labels of a domain. -/
theorem encode_eq_of_split {before others : List Text} {label : Text}
    (split : Name.labels query.domain = before ++ label :: others) :
    query.encode = query.header.encode
      ++ (Name.encodeLabels (before.map Utf8.encode)
        ++ (Name.encodeLabel (Utf8.encode label)
          ++ (Name.encodeLabels (others.map Utf8.encode)
            ++ Form.trailer query.qtype query.qclass []))) := by
  rw [encode_eq_labels, split]
  simp

/-- A written query without wrapped length bytes is a question, perhaps of some labels of
its domain only, or it announces one of its labels too long. -/
theorem exists_form_of_encode (announced : query.header.questions ≠ 0) {bound : Nat}
    (noWrap : bound < 256)
    (short : ∀ label ∈ Name.labels query.domain, (Utf8.encode label).length ≤ bound) :
    (∃ (found : List Text) (qtype qclass : UInt16) (rest : List UInt8),
      (∀ label ∈ found, label ∈ Name.labels query.domain) ∧
      LabelsThen query.encode query.header (found.map Utf8.encode)
        (Form.trailer qtype qclass rest)) ∨
    ∃ length : UInt8, length.toNat ≤ bound ∧ Form.Describes query.encode (.longLabel length) := by
  by_cases writable : Name.Writable query.domain
  · exact .inl ⟨_, _, _, _, fun _ => id, labelsThen_of_writable announced writable⟩
  · rw [Name.writable_iff] at writable
    rcases Name.exists_first_unreadable writable with
      ⟨before, bad, others, split, readable, unreadable⟩
    have badShort : (Utf8.encode bad).length ≤ bound := short bad (by rw [split]; simp)
    have written := encode_eq_of_split split
    rcases Name.unreadable_cases unreadable (Nat.lt_of_le_of_lt badShort noWrap) with
      empty | ⟨long, length⟩
    · left
      have full : 4 ≤ (Name.encodeLabels (others.map Utf8.encode)
          ++ Form.trailer query.qtype query.qclass []).length := by
        rw [List.length_append, length_trailer]
        omega
      rcases exists_trailer full with ⟨qtype, qclass, rest, ending⟩
      refine ⟨before, qtype, qclass, rest, ?_, announced, readable, ?_⟩
      · intro label member
        rw [split]
        exact List.mem_append_left _ member
      · rw [written, empty, ← ending]
        rfl
    · right
      refine ⟨.ofNat (Utf8.encode bad).length, ?_, ?_, _, _, _, announced, readable, written⟩
      · rw [length]
        exact badShort
      · rw [length]
        exact long

end Written

/-! ## Reading again -/

section Again

variable {bytes : List UInt8} {query : Query}

theorem length_le_of_mem_cut_domain (read : decode bytes = .ok query) {label : Text}
    (member : label ∈ Text.cut '.' query.domain) : (Utf8.encode label).length ≤ 189 := by
  rcases decode_eq_ok_iff.mp read with ⟨header, found, qtype, qclass, rest, starts, equal⟩
  rw [equal] at member
  exact Name.length_le_of_mem_cut_text starts.2.1 member

theorem exists_form_of_encode_decode (read : decode bytes = .ok query) :
    (∃ (found : List Text) (qtype qclass : UInt16) (rest : List UInt8),
      (∀ label ∈ found, label ∈ Name.labels query.domain) ∧
      LabelsThen query.encode query.header (found.map Utf8.encode)
        (Form.trailer qtype qclass rest)) ∨
    ∃ length : UInt8, length.toNat ≤ 189 ∧ Form.Describes query.encode (.longLabel length) := by
  apply exists_form_of_encode (questions_ne_zero_of_decode read) (by decide)
  intro label member
  exact length_le_of_mem_cut_domain read (Name.mem_cut_of_mem_labels member)

/-- Labels of a domain are written as they were read: each is a text without a dot. -/
theorem encode_of_labels_of_domain {header : Header} {found : List Text} {qtype qclass : UInt16}
    {rest : List UInt8} (labels : ∀ label ∈ found, label ∈ Name.labels query.domain)
    (starts : LabelsThen bytes header (found.map Utf8.encode) (Form.trailer qtype qclass rest)) :
    (Form.query header (found.map Utf8.encode) qtype qclass).encode =
      bytes.take (Header.size
        + (Form.query header (found.map Utf8.encode) qtype qclass).questionLength) := by
  apply (encode_query_eq_take_iff starts).mpr
  intro label member
  rcases List.mem_map.mp member with ⟨text, textMember, equal⟩
  exact Name.plain_of_mem_labels (List.mem_map.mpr ⟨text, labels text textMember, equal⟩)

/-- What is read again has the bytes that are read as its own. -/
theorem encode_of_decode_encode (read : decode bytes = .ok query) {again : Query}
    (readAgain : decode query.encode = .ok again) :
    again.encode = query.encode.take (Header.size + again.questionLength) := by
  rcases exists_form_of_encode_decode read with
    ⟨found, qtype, qclass, rest, labels, starts⟩ | ⟨length, _, describes⟩
  · cases starts.decode_trailer.symm.trans readAgain
    exact encode_of_labels_of_domain labels starts
  · cases describes.decode_eq.symm.trans readAgain

theorem error_of_decode_encode (read : decode bytes = .ok query) {error : DecodeError}
    (readAgain : decode query.encode = .error error) :
    ∃ length, 64 ≤ length ∧ length ≤ 189 ∧ error = .labelTooLong length := by
  rcases exists_form_of_encode_decode read with
    ⟨found, qtype, qclass, rest, labels, starts⟩ | ⟨length, short, describes⟩
  · cases starts.decode_trailer.symm.trans readAgain
  · cases describes.decode_eq.symm.trans readAgain
    exact ⟨length.toNat, describes.1, short, rfl⟩

theorem decode_encode_of_writable (announced : query.header.questions ≠ 0)
    (writable : Name.Writable query.domain) :
    ∃ questionLength, decode query.encode = .ok { query with questionLength } := by
  have starts := labelsThen_of_writable announced writable
  rw [starts.decode_trailer, query_labels]
  exact ⟨_, rfl⟩

end Again

/-- A query that was read and written again has no length byte that wraps. Read once more
it is refused for a label of up to 189 bytes, or it is a query that would be written as
the bytes that were read of it. It is the same query exactly if its domain can be a
name. -/
theorem decode_encode_of_decode {bytes : List UInt8} {query : Query}
    (read : decode bytes = .ok query) :
    (∀ label ∈ Text.cut '.' query.domain, (Utf8.encode label).length ≤ 189 ∧
      (UInt8.ofNat (Utf8.encode label).length).toNat = (Utf8.encode label).length) ∧
    (∀ error, decode query.encode = .error error →
      ∃ length, 64 ≤ length ∧ length ≤ 189 ∧ error.kind = "InvalidData" ∧
        error.message = s!"label length {length} exceeds 63") ∧
    (∀ again, decode query.encode = .ok again →
      again.encode = query.encode.take (12 + again.questionLength)) ∧
    decode query.encode ≠ .error .truncated ∧
    ((∃ again, decode query.encode = .ok again ∧ again.header = query.header ∧
        again.domain = query.domain ∧ again.qtype = query.qtype ∧
        again.qclass = query.qclass) ↔
      query.domain = [] ∨ ∀ label ∈ Text.cut '.' query.domain,
        1 ≤ (Utf8.encode label).length ∧ (Utf8.encode label).length ≤ 63) := by
  refine ⟨?_, ?_, fun again readAgain => encode_of_decode_encode read readAgain, ?_, ?_, ?_⟩
  · intro label member
    have bound := length_le_of_mem_cut_domain read member
    exact ⟨bound, UInt8.toNat_ofNat_of_lt' (Nat.lt_of_le_of_lt bound (by decide))⟩
  · intro error readAgain
    rcases error_of_decode_encode read readAgain with ⟨length, long, bound, equal⟩
    rw [equal]
    exact ⟨length, long, bound, rfl, message_labelTooLong length⟩
  · intro truncated
    rcases error_of_decode_encode read truncated with ⟨length, _, _, equal⟩
    cases equal
  · rintro ⟨again, readAgain, _, sameDomain, _, _⟩
    exact writable_of_decode_encode readAgain sameDomain
  · intro writable
    rcases decode_encode_of_writable (questions_ne_zero_of_decode read) writable with
      ⟨questionLength, readAgain⟩
    exact ⟨_, readAgain, rfl, rfl, rfl, rfl⟩

/-- One label with a dot inside is written as two labels. These are read as the same domain,
and from then on the bytes stay. -/
theorem decode_encode_of_decode_of_label_with_dot :
    ∃ query again, decode ((⟨7, 0, 1, 0, 0, 0⟩ : Header).encode
          ++ [3, 0x61, 0x2E, 0x62, 0, 0, 1, 0, 1]) = .ok query ∧
      decode query.encode = .ok again ∧ again.domain = query.domain ∧
      again.encode = query.encode.take (12 + again.questionLength) := by
  have starts : LabelsThen ((⟨7, 0, 1, 0, 0, 0⟩ : Header).encode
      ++ [3, 0x61, 0x2E, 0x62, 0, 0, 1, 0, 1]) ⟨7, 0, 1, 0, 0, 0⟩ [[0x61, 0x2E, 0x62]]
      (Form.trailer 1 1 []) := ⟨by decide, by decide, rfl⟩
  have domain : (Form.query ⟨7, 0, 1, 0, 0, 0⟩ [[0x61, 0x2E, 0x62]] 1 1).domain =
      "a.b".toList := Utf8.decodeLossy_encode "a.b".toList
  have writable : Name.Writable "a.b".toList := .inr (by decide)
  rcases decode_encode_of_decode starts.decode_trailer with ⟨-, -, canonical, -, same⟩
  rcases same.mpr (domain ▸ writable) with ⟨again, readAgain, _, sameDomain, _, _⟩
  exact ⟨_, again, starts.decode_trailer, readAgain, sameDomain, canonical again readAgain⟩

end StubDns.Query
