import Mathlib.Data.List.TakeWhile
import StubDns.Proofs.Dns.SecondReading

/-! # Names with an empty label

An empty label is written as a zero byte, and a reader takes this byte for the end of the
name. The labels before it are read as the name; the next four bytes, whatever they were
written as, are read as type and class. There always are as many, since the end of the name,
the type and the class are still to come. The bytes after these are not read.
-/

namespace StubDns

namespace Utf8

theorem encode_eq_nil_iff {text : Text} : encode text = [] ↔ text = [] := by
  constructor
  · intro empty
    rw [← decodeLossy_encode text, empty, decodeLossy_nil]
  · intro empty
    rw [empty, encode_nil]

theorem zero_mem_encode_iff (text : Text) : 0 ∈ encode text ↔ '\x00' ∈ text :=
  mem_encode_iff_of_ascii (by decide) (by decide) text

end Utf8

namespace Name

/-! ## The labels before an empty one -/

/-- The labels of a domain before its first empty one. -/
def leading (domain : Text) : List Text := (Text.cut '.' domain).takeWhile (· ≠ [])

example : leading "a.b..c".toList = ["a".toList, "b".toList] := by decide

/-- The number of bytes that the labels before the first empty one are written as. -/
def leadingLength (domain : Text) : Nat :=
  ((leading domain).map fun label => 1 + (Utf8.encode label).length).sum

section Leading

variable {domain : Text}

theorem exists_cut_eq_leading (empty : [] ∈ Text.cut '.' domain) :
    ∃ others, Text.cut '.' domain = leading domain ++ [] :: others := by
  rcases List.eq_append_cons_of_mem empty with ⟨before, others, split, absent⟩
  have notEmpty : ∀ label ∈ before, decide (label ≠ []) = true := by
    intro label member
    apply decide_eq_true
    intro equal
    exact absent (equal ▸ member)
  refine ⟨others, ?_⟩
  rw [leading, split, List.takeWhile_append_of_pos notEmpty]
  simp

theorem ne_nil_of_mem_leading {label : Text} (member : label ∈ leading domain) : label ≠ [] := by
  simpa using List.mem_takeWhile_imp member

theorem allReadable_leading
    (short : ∀ label ∈ leading domain, (Utf8.encode label).length ≤ 63) :
    AllReadable ((leading domain).map Utf8.encode) := by
  intro bytes member
  rcases List.mem_map.mp member with ⟨label, labelMember, equal⟩
  subst equal
  constructor
  · apply List.length_pos_iff.mpr
    simpa [Utf8.encode_eq_nil_iff] using ne_nil_of_mem_leading labelMember
  · exact short label labelMember

theorem length_encodeLabels_leading (domain : Text) :
    (encodeLabels ((leading domain).map Utf8.encode)).length = leadingLength domain := by
  simp [length_encodeLabels, leadingLength, Function.comp_def]

theorem zero_mem_encodeLabels_iff {labels : List (List UInt8)} (readable : AllReadable labels) :
    0 ∈ encodeLabels labels ↔ ∃ label ∈ labels, 0 ∈ label := by
  have inLabel : ∀ label ∈ labels, (0 ∈ encodeLabel label ↔ 0 ∈ label) := by
    intro label member
    have length := (readable label member).toNat_length
    have positive : 1 ≤ label.length := (readable label member).1
    -- A length byte of zero would be the one of an empty label.
    have notZero : 0 ≠ UInt8.ofNat label.length := by
      intro zero
      rw [← zero] at length
      simp at length
      omega
    simp [encodeLabel, notZero]
  rw [encodeLabels, List.mem_flatMap]
  exact exists_congr fun label => and_congr_right (inLabel label)

theorem zero_mem_encodeLabels_leading_iff
    (short : ∀ label ∈ leading domain, (Utf8.encode label).length ≤ 63) :
    0 ∈ encodeLabels ((leading domain).map Utf8.encode) ↔
      ∃ label ∈ leading domain, '\x00' ∈ label := by
  simp [zero_mem_encodeLabels_iff (allReadable_leading short), Utf8.zero_mem_encode_iff]

end Leading

/-! ## A dot at the end -/

theorem cut_append_dot (name : Text) :
    Text.cut '.' (name ++ ['.']) = Text.cut '.' name ++ [[]] :=
  Text.cut_append_separator name []

theorem labels_append_dot {name : Text} (nonempty : name ≠ []) :
    labels (name ++ ['.']) = labels name ++ [[]] := by
  have longer : name ++ ['.'] ≠ [] := by simp
  rw [labels_of_ne_nil longer, labels_of_ne_nil nonempty, cut_append_dot]

end Name

namespace Query

/-! ## Reading -/

theorem labelsThen_of_empty {query : Query} (announced : query.header.questions ≠ 0)
    (nonempty : query.domain ≠ []) (empty : [] ∈ Text.cut '.' query.domain)
    (short : ∀ label ∈ Name.leading query.domain, (Utf8.encode label).length ≤ 63) :
    ∃ qtype qclass rest, LabelsThen query.encode query.header
      ((Name.leading query.domain).map Utf8.encode) (Form.trailer qtype qclass rest) := by
  rcases Name.exists_cut_eq_leading empty with ⟨others, split⟩
  rw [← Name.labels_of_ne_nil nonempty] at split
  -- Behind the zero byte of the empty label at least the end of the name, type and class follow.
  have full : 4 ≤ (Name.encodeLabels (others.map Utf8.encode)
      ++ Form.trailer query.qtype query.qclass []).length := by
    rw [List.length_append, length_trailer]
    omega
  rcases exists_trailer full with ⟨qtype, qclass, rest, ending⟩
  refine ⟨qtype, qclass, rest, announced, Name.allReadable_leading short, ?_⟩
  rw [encode_eq_of_split split, ← ending]
  rfl

theorem take_trailer (qtype qclass : UInt16) (rest : List UInt8) :
    (Form.trailer qtype qclass rest).take 5 = 0 :: (wordBytes qtype ++ wordBytes qclass) := rfl

section Leading

variable {domain : Text} {qtype qclass : UInt16} {rest : List UInt8}

theorem questionLength_leading (header : Header) (domain : Text) (qtype qclass : UInt16) :
    (Form.query header ((Name.leading domain).map Utf8.encode) qtype qclass).questionLength =
      Name.leadingLength domain + 5 := by
  simp [Form.query, Name.leadingLength, Function.comp_def]

theorem take_leading {bytes : List UInt8} {header : Header}
    (starts : LabelsThen bytes header ((Name.leading domain).map Utf8.encode)
      (Form.trailer qtype qclass rest)) :
    (bytes.drop Header.size).take (Name.leadingLength domain) =
      Name.encodeLabels ((Name.leading domain).map Utf8.encode) := by
  rw [starts.drop_header, ← Name.length_encodeLabels_leading, List.take_left]

theorem drop_leading {bytes : List UInt8} {header : Header}
    (starts : LabelsThen bytes header ((Name.leading domain).map Utf8.encode)
      (Form.trailer qtype qclass rest)) :
    bytes.drop (Header.size + Name.leadingLength domain) = Form.trailer qtype qclass rest := by
  rw [← List.drop_drop, starts.drop_header, ← Name.length_encodeLabels_leading, List.drop_left]

end Leading

/-- A dot at the end moves type and class behind by one byte. -/
theorem labelsThen_of_dot {name : Text} (nonempty : name ≠ []) (writable : Name.Writable name)
    (options : QueryOptions) :
    LabelsThen (make (name ++ ['.']) options).encode (make (name ++ ['.']) options).header
      ((Name.labels name).map Utf8.encode)
      (Form.trailer (wordOf 0 (.ofNat (options.qtype.toNat / 256)))
        (wordOf (.ofNat (options.qtype.toNat % 256)) (.ofNat (options.qclass.toNat / 256)))
        [.ofNat (options.qclass.toNat % 256)]) := by
  refine ⟨questions_make_ne_zero _ options, (Name.writable_iff name).mp writable, ?_⟩
  have labels : Name.labels (make (name ++ ['.']) options).domain = Name.labels name ++ [[]] :=
    Name.labels_append_dot nonempty
  rw [encode_eq_labels, labels, trailer_wordOf]
  simp [Form.trailer, Name.encodeLabel, wordBytes, make]

/-! ## Results -/

theorem exists_decode_of_empty {domain : Text} (nonempty : domain ≠ [])
    (empty : [] ∈ Text.cut '.' domain)
    (short : ∀ label ∈ Name.leading domain, (Utf8.encode label).length ≤ 63)
    (options : QueryOptions) :
    ∃ query, decode (make domain options).encode = .ok query ∧
      query.header = (make domain options).header ∧
      query.domain = Text.join '.' (Name.leading domain) ∧
      query.questionLength = Name.leadingLength domain + 5 ∧
      ((make domain options).encode.drop (12 + Name.leadingLength domain)).take 5 =
        0 :: (wordBytes query.qtype ++ wordBytes query.qclass) ∧
      (0 ∈ ((make domain options).encode.drop 12).take (Name.leadingLength domain) ↔
        ∃ label ∈ Name.leading domain, '\x00' ∈ label) := by
  have announced := questions_make_ne_zero domain options
  rcases labelsThen_of_empty announced nonempty empty short with ⟨qtype, qclass, rest, starts⟩
  have ending : (make domain options).encode.drop (12 + Name.leadingLength domain) =
      Form.trailer qtype qclass rest := drop_leading starts
  have front : ((make domain options).encode.drop 12).take (Name.leadingLength domain) =
      Name.encodeLabels ((Name.leading domain).map Utf8.encode) := take_leading starts
  refine ⟨_, starts.decode_trailer, rfl, Name.text_map_encode _,
    questionLength_leading _ domain qtype qclass, ?_, ?_⟩
  · rw [ending, take_trailer]
    rfl
  · rw [front]
    exact Name.zero_mem_encodeLabels_leading_iff short

theorem exists_decode_of_dot {name : Text} (nonempty : name ≠ []) (writable : Name.Writable name)
    (options : QueryOptions) :
    ∃ query, decode (make (name ++ ['.']) options).encode = .ok query ∧
      query.domain = name ∧
      query.qtype.toNat = options.qtype.toNat / 256 ∧
      query.qclass.toNat = options.qtype.toNat % 256 * 256 + options.qclass.toNat / 256 ∧
      12 + query.questionLength + 1 = (make (name ++ ['.']) options).encode.length := by
  have starts := labelsThen_of_dot nonempty writable options
  have typeBound := options.qtype.toNat_lt
  have classBound := options.qclass.toNat_lt
  refine ⟨_, starts.decode_trailer, Name.text_labels name, ?_, ?_, starts.length_eq.symm⟩
  · simp [Form.query, toNat_wordOf]
    omega
  · simp [Form.query, toNat_wordOf]
    omega

/-- A query for a domain with an empty label is always read, if the labels before the first
such one are not too long: as these labels, and with a type and a class from the four bytes
behind the zero byte that the empty label is written as. No other byte before that one is
zero, unless a label holds the character zero. A dot at the end of a name leaves the name as it
is and moves type and class by one byte, so that one byte is not read. -/
theorem decode_encode_of_empty_label (options : QueryOptions) :
    (∀ domain : Text, domain ≠ [] → [] ∈ Text.cut '.' domain →
      (∀ label ∈ Name.leading domain, (Utf8.encode label).length ≤ 63) →
      ∃ query, decode (make domain options).encode = .ok query ∧
        query.header = (make domain options).header ∧
        query.domain = Text.join '.' (Name.leading domain) ∧
        query.questionLength = Name.leadingLength domain + 5 ∧
        ((make domain options).encode.drop (12 + Name.leadingLength domain)).take 5 =
          0 :: (wordBytes query.qtype ++ wordBytes query.qclass) ∧
        (0 ∈ ((make domain options).encode.drop 12).take (Name.leadingLength domain) ↔
          ∃ label ∈ Name.leading domain, '\x00' ∈ label)) ∧
    ∀ name : Text, name ≠ [] →
      (∀ label ∈ Text.cut '.' name,
        1 ≤ (Utf8.encode label).length ∧ (Utf8.encode label).length ≤ 63) →
      ∃ query, decode (make (name ++ ['.']) options).encode = .ok query ∧
        query.domain = name ∧
        query.qtype.toNat = options.qtype.toNat / 256 ∧
        query.qclass.toNat = options.qtype.toNat % 256 * 256 + options.qclass.toNat / 256 ∧
        12 + query.questionLength + 1 = (make (name ++ ['.']) options).encode.length := by
  constructor
  · intro domain nonempty empty short
    exact exists_decode_of_empty nonempty empty short options
  · intro name nonempty sizes
    exact exists_decode_of_dot nonempty (.inr sizes) options

/-! ### A doubled dot -/

/-- A label behind a doubled dot, so long that its length byte wraps. -/
def doubledDot : Text := "a..".toList ++ List.replicate 257 'b'

theorem leading_doubledDot : Name.leading doubledDot = ["a".toList] := by decide +kernel

/-- The label behind the doubled dot and its length byte are read as type and class. -/
theorem decode_encode_of_empty_label_of_doubled_dot :
    ∃ query, decode (make doubledDot .standard).encode = .ok query ∧
      query.domain = "a".toList ∧ query.questionLength = 7 ∧
      wordBytes query.qtype ++ wordBytes query.qclass = [1, 0x62, 0x62, 0x62] := by
  have nonempty : doubledDot ≠ [] := by decide
  have empty : [] ∈ Text.cut '.' doubledDot := by decide +kernel
  have short : ∀ label ∈ Name.leading doubledDot, (Utf8.encode label).length ≤ 63 := by
    rw [leading_doubledDot]
    decide
  have length : Name.leadingLength doubledDot = 2 := by
    rw [Name.leadingLength, leading_doubledDot]
    decide
  have written : ((make doubledDot .standard).encode.drop (12 + 2)).take 5 =
      [0, 1, 0x62, 0x62, 0x62] := by
    decide +kernel
  rcases (decode_encode_of_empty_label .standard).1 doubledDot nonempty empty short with
    ⟨query, read, -, domain, question, words, -⟩
  rw [length] at question words
  rw [written] at words
  refine ⟨query, read, ?_, question, (List.tail_eq_of_cons_eq words).symm⟩
  rw [domain, leading_doubledDot]
  rfl

end Query

end StubDns
