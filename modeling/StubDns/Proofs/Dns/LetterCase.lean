import StubDns.Proofs.Dns.ResponseFormat
import StubDns.Proofs.Text.AsciiLetters

/-! # Letter case of requests

Two requests that differ only in the case of ASCII letters inside labels ask for the same
name and get the same answer, each under the question as it was written. No label has to be
UTF-8 for this: what is read in the place of other bytes does not depend on the case of the
letters around them.
-/

namespace StubDns

/-! ## Names -/

namespace Name

/-- A position inside a label, counted from the start of a name. The byte with the length of
a label is not inside of it. -/
inductive Inside : List (List UInt8) → Nat → Prop
  | here {label : List UInt8} {labels : List (List UInt8)} {offset : Nat}
      (within : offset < label.length) : Inside (label :: labels) (1 + offset)
  | later {label : List UInt8} {labels : List (List UInt8)} {position : Nat}
      (inside : Inside labels position) : Inside (label :: labels) (1 + label.length + position)

/-- Bytes that start with a name of these labels, and bytes that are the same but for the
case of ASCII letters inside the labels. -/
structure SameButCase (labels : List (List UInt8)) (bytes other : List UInt8) : Prop where
  letters : other.map foldByte = bytes.map foldByte
  outside : ∀ position, ¬ Inside labels position → other[position]? = bytes[position]?

theorem not_inside_zero (labels : List (List UInt8)) : ¬ Inside labels 0 := by
  intro inside
  generalize equal : 0 = position at inside
  cases inside <;> omega

theorem not_inside_later {label : List UInt8} {labels : List (List UInt8)} {position : Nat}
    (outside : ¬ Inside labels position) :
    ¬ Inside (label :: labels) (1 + label.length + position) := by
  intro inside
  generalize equal : 1 + label.length + position = found at inside
  cases inside with
  | here within => omega
  | later inside =>
      have same := Nat.add_left_cancel equal
      exact outside (same ▸ inside)

theorem getElem?_encodeLabel_append (label rest : List UInt8) (position : Nat) :
    (encodeLabel label ++ rest)[1 + label.length + position]? = rest[position]? := by
  have size : (encodeLabel label).length = 1 + label.length := by
    rw [encodeLabel, List.length_cons, Nat.add_comm]
  rw [List.getElem?_append_right (by omega), size, Nat.add_sub_cancel_left]

/-- The first label of the other bytes has the same length, and behind it the bytes are the
same but for the case inside the other labels. -/
theorem SameButCase.cons {label : List UInt8} {labels : List (List UInt8)}
    {bytes other : List UInt8}
    (same : SameButCase (label :: labels) (encodeLabel label ++ bytes) other) :
    ∃ front back, other = encodeLabel front ++ back ∧
      front.map foldByte = label.map foldByte ∧ SameButCase labels bytes back := by
  have letters := same.letters
  rw [encodeLabel, List.cons_append, List.map_cons, List.map_append] at letters
  rcases List.map_eq_cons_iff.mp letters with ⟨length, rest, split, -, folded⟩
  rcases List.map_eq_append_iff.mp folded with ⟨front, back, parts, frontFolded, backFolded⟩
  have sizes : front.length = label.length := by simpa using congrArg List.length frontFolded
  have first := same.outside 0 (not_inside_zero _)
  rw [split] at first
  have equal : other = encodeLabel front ++ back := by
    rw [split, parts, Option.some.inj first, ← sizes]
    rfl
  refine ⟨front, back, equal, frontFolded, backFolded, ?_⟩
  intro position outside
  have there := same.outside _ (not_inside_later outside)
  rwa [getElem?_encodeLabel_append, equal, ← sizes, getElem?_encodeLabel_append] at there

theorem SameButCase.exists_labels {labels : List (List UInt8)} {tail other : List UInt8}
    (same : SameButCase labels (encodeLabels labels ++ tail) other) :
    ∃ others, other = encodeLabels others ++ tail ∧
      others.map (List.map foldByte) = labels.map (List.map foldByte) := by
  induction labels generalizing other with
  | nil =>
      refine ⟨[], ?_, rfl⟩
      apply List.ext_getElem?
      intro position
      exact same.outside position nofun
  | cons label labels induction =>
      rw [encodeLabels_cons, List.append_assoc] at same
      rcases same.cons with ⟨front, back, equal, frontFolded, backSame⟩
      rcases induction backSame with ⟨others, backEqual, othersFolded⟩
      refine ⟨front :: others, ?_, ?_⟩
      · rw [equal, backEqual, encodeLabels_cons, List.append_assoc]
      · rw [List.map_cons, List.map_cons, frontFolded, othersFolded]

section Folded

variable {labels others : List (List UInt8)}

theorem AllReadable.of_map_foldByte (readable : AllReadable labels)
    (folded : others.map (List.map foldByte) = labels.map (List.map foldByte)) :
    AllReadable others := by
  intro other member
  have image : other.map foldByte ∈ labels.map (List.map foldByte) :=
    folded ▸ List.mem_map_of_mem member
  rcases List.mem_map.mp image with ⟨label, labelMember, equal⟩
  have sizes : label.length = other.length := by simpa using congrArg List.length equal
  have here := readable label labelMember
  rwa [Readable, sizes] at here

theorem sizes_of_map_foldByte
    (folded : others.map (List.map foldByte) = labels.map (List.map foldByte)) :
    (others.map fun label => 1 + label.length) = labels.map fun label => 1 + label.length := by
  have sizes := congrArg (List.map fun label => 1 + label.length) folded
  simpa [Function.comp_def] using sizes

theorem foldAscii_text (labels : List (List UInt8)) :
    Text.foldAscii (text labels) = text (labels.map (List.map foldByte)) := by
  have dot : Text.foldChar '.' = '.' := rfl
  rw [text, Text.foldAscii, Text.map_join, dot, text, List.map_map, List.map_map]
  congr 1
  exact List.map_congr_left fun label _ => Utf8.foldAscii_decodeLossy label

end Folded

end Name

/-! ## Requests -/

namespace Query

theorem LabelsThen.exists_of_sameButCase {request other : List UInt8} {header : Header}
    {labels : List (List UInt8)} {tail : List UInt8}
    (starts : LabelsThen request header labels tail)
    (sameHeader : other.take Header.size = request.take Header.size)
    (sameBody :
      Name.SameButCase labels (request.drop Header.size) (other.drop Header.size)) :
    ∃ others, LabelsThen other header others tail ∧
      others.map (List.map foldByte) = labels.map (List.map foldByte) := by
  rw [starts.drop_header] at sameBody
  rcases sameBody.exists_labels with ⟨others, body, folded⟩
  refine ⟨others, ⟨starts.1, starts.2.1.of_map_foldByte folded, ?_⟩, folded⟩
  rw [← List.take_append_drop Header.size other, body, sameHeader, starts.2.2,
    Header.take_encode_append]

/-- What is read of a request that is the same as an accepted one but for case. -/
theorem exists_decode_of_sameButCase {request other : List UInt8} {query : Query}
    (read : decode request = .ok query) {labels : List (List UInt8)} {after : List UInt8}
    (name : Name.readLabels (request.drop Header.size) = .ok (labels, after))
    (sameHeader : other.take Header.size = request.take Header.size)
    (sameBody :
      Name.SameButCase labels (request.drop Header.size) (other.drop Header.size)) :
    ∃ otherQuery, decode other = .ok otherQuery ∧ otherQuery.header = query.header ∧
      otherQuery.qtype = query.qtype ∧ otherQuery.qclass = query.qclass ∧
      otherQuery.questionLength = query.questionLength ∧
      Text.foldAscii otherQuery.domain = Text.foldAscii query.domain := by
  rcases decode_eq_ok_iff.mp read with ⟨header, ownLabels, qtype, qclass, rest, starts, equal⟩
  have sameLabels := starts.readLabels_drop
  rw [name, Except.ok.injEq, Prod.mk.injEq] at sameLabels
  rw [sameLabels.1] at sameBody
  rcases starts.exists_of_sameButCase sameHeader sameBody with ⟨others, otherStarts, folded⟩
  refine ⟨_, otherStarts.decode_trailer, ?_⟩
  rw [equal]
  refine ⟨rfl, rfl, rfl, ?_, ?_⟩
  · simp only [Form.query, Name.sizes_of_map_foldByte folded]
  · simp only [Form.query, Name.foldAscii_text, folded]

end Query

/-! ## Responses -/

namespace RecordTable

theorem lookup_congr (table : RecordTable) {left right : Text}
    (same : Text.foldAscii left = Text.foldAscii right) :
    table.lookup left = table.lookup right := by
  rw [lookup, lookup, same]

/-- A request that is the same as an accepted one but for the case of ASCII letters inside
labels is accepted too. It has the same header, type and class, a question of the same length
for a domain that is the same but for case, and a response that differs from the other one
in the bytes of the question only, which are its own. -/
theorem respond?_ignores_letter_case (table : RecordTable) {request other : List UInt8}
    {query : Query} (read : Query.decode request = .ok query)
    {labels : List (List UInt8)} {after : List UInt8}
    (name : Name.readLabels (request.drop 12) = .ok (labels, after))
    (sameHeader : other.take 12 = request.take 12)
    (sameBody : Name.SameButCase labels (request.drop 12) (other.drop 12)) :
    ∃ otherQuery header answers,
      Query.decode other = .ok otherQuery ∧
      otherQuery.header = query.header ∧ otherQuery.qtype = query.qtype ∧
      otherQuery.qclass = query.qclass ∧ otherQuery.questionLength = query.questionLength ∧
      Text.foldAscii otherQuery.domain = Text.foldAscii query.domain ∧
      header.length = 12 ∧
      table.respond? request query =
        some (header ++ ((request.drop 12).take query.questionLength ++ answers)) ∧
      table.respond? other otherQuery =
        some (header ++ ((other.drop 12).take query.questionLength ++ answers)) := by
  rcases Query.exists_decode_of_sameButCase read name sameHeader sameBody with
    ⟨otherQuery, otherRead, headers, qtype, qclass, length, domain⟩
  have parts := response_parts_congr rfl headers qtype qclass (table.lookup_congr domain)
  refine ⟨otherQuery, (table.responseHeader query).encode, table.answerSection query, otherRead,
    headers, qtype, qclass, length, domain, rfl, respond?_of_decode read, ?_⟩
  rw [respond?_of_decode otherRead, response, Query.questionBytes, parts.1, parts.2, length]
  rfl

/-- A question whose only label starts like a sequence that two letters break off. -/
def brokenRequest (first second : UInt8) : List UInt8 :=
  (⟨0x0A0B, 0x0100, 1, 0, 0, 0⟩ : Header).encode ++ [3, 0xE2, first, second, 0, 0, 1, 0, 1]

/-- A table with a name in which a replacement stands before two letters. -/
def brokenTable : RecordTable := make [("\uFFFDaB".toList, ⟨1, 2, 3, 4⟩)] 60

theorem sameButCase_brokenRequest :
    Name.SameButCase [[0xE2, 0x41, 0x62]] ((brokenRequest 0x41 0x62).drop 12)
      ((brokenRequest 0x61 0x42).drop 12) where
  letters := by decide
  outside
    | 0, _ => rfl
    | 1, outside => (outside (@Name.Inside.here _ [] 0 (by decide))).elim
    | 2, outside => (outside (@Name.Inside.here _ [] 1 (by decide))).elim
    | 3, outside => (outside (@Name.Inside.here _ [] 2 (by decide))).elim
    | _ + 4, _ => rfl

/-- Both letters are in different cases, and both requests are answered. -/
theorem respond?_ignores_letter_case_of_broken_label :
    ∃ query otherQuery header answers,
      Query.decode (brokenRequest 0x41 0x62) = .ok query ∧
      Query.decode (brokenRequest 0x61 0x42) = .ok otherQuery ∧
      brokenTable.respond? (brokenRequest 0x41 0x62) query =
        some (header ++ ([3, 0xE2, 0x41, 0x62, 0, 0, 1, 0, 1] ++ answers)) ∧
      brokenTable.respond? (brokenRequest 0x61 0x42) otherQuery =
        some (header ++ ([3, 0xE2, 0x61, 0x42, 0, 0, 1, 0, 1] ++ answers)) ∧
      header.length = 12 ∧ answers.length = 16 := by
  have read : Query.decode (brokenRequest 0x41 0x62) =
      .ok ⟨⟨0x0A0B, 0x0100, 1, 0, 0, 0⟩, "\uFFFDAb".toList, 1, 1, 9⟩ := by
    decide +kernel
  have name : Name.readLabels ((brokenRequest 0x41 0x62).drop 12) =
      .ok ([[0xE2, 0x41, 0x62]], [0, 1, 0, 1]) := by
    decide +kernel
  have headers : (brokenRequest 0x61 0x42).take 12 = (brokenRequest 0x41 0x62).take 12 := rfl
  have answered :
      (brokenTable.respond? (brokenRequest 0x41 0x62)
        ⟨⟨0x0A0B, 0x0100, 1, 0, 0, 0⟩, "\uFFFDAb".toList, 1, 1, 9⟩).map List.length = some 37 := by
    decide +kernel
  rcases respond?_ignores_letter_case brokenTable read name headers
    sameButCase_brokenRequest with
    ⟨otherQuery, header, answers, otherRead, -, -, -, -, -, size, first, second⟩
  have length : header.length + (9 + answers.length) = 37 := by
    rw [first, Option.map_some, Option.some.injEq, List.length_append, List.length_append]
      at answered
    exact answered
  exact ⟨_, otherQuery, header, answers, read, otherRead, first, second, size, by omega⟩

end RecordTable

end StubDns
