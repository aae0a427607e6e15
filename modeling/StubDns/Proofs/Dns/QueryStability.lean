import StubDns.Proofs.Dns.QueryForms

/-! # Reading queries from more or fewer bytes

What follows a question never matters to a reader, and an error that is not a
lack of bytes stays whatever follows. The length of a question is exactly how far
the reader looks: with fewer bytes it misses some, and more bytes do not change
the query.
-/

namespace StubDns.Query

/-! ## The bytes of a question -/

/-- The bytes of the question that a query was read from. -/
def questionBytes (query : Query) (request : List UInt8) : List UInt8 :=
  (request.drop Header.size).take query.questionLength

theorem length_questionBytes {query : Query} {request : List UInt8}
    (enough : Header.size + query.questionLength ≤ request.length) :
    (query.questionBytes request).length = query.questionLength := by
  rw [questionBytes, List.length_take, List.length_drop]
  omega

theorem trailer_append (qtype qclass : UInt16) (rest more : List UInt8) :
    Form.trailer qtype qclass (rest ++ more) = Form.trailer qtype qclass rest ++ more := by
  simp [Form.trailer]

theorem LabelsThen.questionBytes_eq {bytes : List UInt8} {header : Header}
    {labels : List (List UInt8)} {qtype qclass : UInt16} {rest : List UInt8}
    (starts : LabelsThen bytes header labels (Form.trailer qtype qclass rest)) :
    (Form.query header labels qtype qclass).questionBytes bytes =
      Name.encodeLabels labels ++ Form.trailer qtype qclass [] := by
  have whole := starts.length_eq
  rcases starts with ⟨-, -, split⟩
  have front : bytes = header.encode ++ ((Name.encodeLabels labels
      ++ Form.trailer qtype qclass []) ++ rest) := by
    rw [split, List.append_assoc, ← trailer_append, List.nil_append]
  have length : (Name.encodeLabels labels ++ Form.trailer qtype qclass []).length =
      (Form.query header labels qtype qclass).questionLength := by
    rw [front, List.length_append, List.length_append, Header.length_encode] at whole
    omega
  rw [questionBytes, front, Header.drop_encode_append, ← length, List.take_left]

/-- The bytes of a question read as the same question behind any header that
announces one, whatever follows them. -/
theorem decode_questionBytes {request : List UInt8} {query : Query}
    (read : decode request = .ok query) {header : Header} (announced : header.questions ≠ 0)
    (rest : List UInt8) :
    decode (header.encode ++ (query.questionBytes request ++ rest)) =
      .ok { query with header := header } := by
  rcases decode_eq_ok_iff.mp read with
    ⟨ownHeader, labels, qtype, qclass, ownRest, starts, equal⟩
  have again : LabelsThen (header.encode ++ (query.questionBytes request ++ rest)) header labels
      (Form.trailer qtype qclass rest) := by
    refine ⟨announced, starts.2.1, ?_⟩
    rw [equal, starts.questionBytes_eq, List.append_assoc, ← trailer_append, List.nil_append]
  rw [again.decode_trailer, equal]
  rfl

theorem questions_ne_zero_of_decode {bytes : List UInt8} {query : Query}
    (read : decode bytes = .ok query) : query.header.questions ≠ 0 := by
  rcases decode_eq_ok_iff.mp read with ⟨header, labels, qtype, qclass, rest, starts, equal⟩
  rw [equal]
  exact starts.1

/-- What is read of bytes is a header and the bytes of a question. -/
theorem take_of_decode {bytes : List UInt8} {query : Query} (read : decode bytes = .ok query) :
    bytes.take (Header.size + query.questionLength) =
      query.header.encode ++ query.questionBytes bytes := by
  rcases decode_eq_ok_iff.mp read with ⟨header, labels, qtype, qclass, rest, starts, equal⟩
  have sameHeader : query.header = header := by rw [equal]; rfl
  rw [List.take_add, questionBytes, sameHeader, starts.2.2, Header.take_encode_append]

/-- The name of a question is read where the header ends. -/
theorem LabelsThen.readLabels_drop {bytes : List UInt8} {header : Header}
    {labels : List (List UInt8)} {qtype qclass : UInt16} {rest : List UInt8}
    (starts : LabelsThen bytes header labels (Form.trailer qtype qclass rest)) :
    Name.readLabels (bytes.drop Header.size) =
      .ok (labels, wordBytes qtype ++ wordBytes qclass ++ rest) := by
  rw [starts.drop_header]
  exact readLabels_trailer starts.2.1 qtype qclass rest

theorem readLabels_of_decode {bytes : List UInt8} {query : Query}
    (read : decode bytes = .ok query) :
    ∃ labels after, Name.readLabels (bytes.drop Header.size) = .ok (labels, after) ∧
      Name.text labels = query.domain := by
  rcases decode_eq_ok_iff.mp read with ⟨header, labels, qtype, qclass, rest, starts, equal⟩
  refine ⟨labels, _, starts.readLabels_drop, ?_⟩
  rw [equal]
  rfl

/-- Questions of the same bytes are the same question. -/
theorem question_eq_of_questionBytes_eq {left right : List UInt8} {leftQuery rightQuery : Query}
    (leftRead : decode left = .ok leftQuery) (rightRead : decode right = .ok rightQuery)
    (sameBytes : leftQuery.questionBytes left = rightQuery.questionBytes right) :
    { leftQuery with header := rightQuery.header } = rightQuery := by
  have announced := questions_ne_zero_of_decode rightRead
  have leftAgain := decode_questionBytes leftRead announced []
  have rightAgain := decode_questionBytes rightRead announced []
  rw [sameBytes, rightAgain] at leftAgain
  exact (Except.ok.inj leftAgain).symm

/-! ## More bytes and fewer bytes -/

theorem LabelsThen.append {bytes : List UInt8} {header : Header}
    {labels : List (List UInt8)} {tail : List UInt8}
    (starts : LabelsThen bytes header labels tail) (more : List UInt8) :
    LabelsThen (bytes ++ more) header labels (tail ++ more) := by
  rcases starts with ⟨announced, readable, split⟩
  refine ⟨announced, readable, ?_⟩
  rw [split]
  simp

/-- A result that is no lack of bytes is the same with more bytes. -/
theorem decode_append_of_ne_truncated {bytes : List UInt8}
    (enough : decode bytes ≠ .error .truncated) (more : List UInt8) :
    decode (bytes ++ more) = decode bytes := by
  rcases Form.exists_describes bytes with ⟨form, describes⟩
  have read := describes.decode_eq
  cases form with
  | shortHeader => exact absurd read enough
  | noQuestion =>
      rcases exists_header describes.1 with ⟨header, body, split, count⟩
      have unannounced := count.mp describes.2
      rw [split, List.append_assoc, decode_of_questions_eq_zero unannounced,
        decode_of_questions_eq_zero unannounced]
  | question header labels qtype qclass rest =>
      have starts : LabelsThen bytes header labels (Form.trailer qtype qclass rest) := describes
      have longer : LabelsThen (bytes ++ more) header labels
          (Form.trailer qtype qclass (rest ++ more)) := by
        rw [trailer_append]
        exact starts.append more
      rw [starts.decode_trailer, longer.decode_trailer]
  | longLabel length =>
      rcases describes with ⟨long, header, labels, rest, starts⟩
      have longer : Form.Describes (bytes ++ more) (.longLabel length) :=
        ⟨long, header, labels, rest ++ more, starts.append more⟩
      rw [read, longer.decode_eq]
  | cutOff => exact absurd read enough

/-- The header and the question are all that is needed to read a query. -/
theorem decode_take_question {bytes : List UInt8} {query : Query}
    (read : decode bytes = .ok query) :
    decode (bytes.take (Header.size + query.questionLength)) = .ok query := by
  have again := decode_questionBytes read (questions_ne_zero_of_decode read) []
  rw [List.append_nil, ← take_of_decode read] at again
  exact again

theorem decode_of_take_eq {bytes other : List UInt8} {query : Query}
    (read : decode bytes = .ok query)
    (agree : other.take (Header.size + query.questionLength) =
      bytes.take (Header.size + query.questionLength)) :
    decode other = .ok query := by
  have front := decode_take_question read
  rw [← agree] at front
  have enough : decode (other.take (Header.size + query.questionLength)) ≠
      .error .truncated := by
    rw [front]
    intro equal
    cases equal
  have more := decode_append_of_ne_truncated enough
    (other.drop (Header.size + query.questionLength))
  rw [List.take_append_drop] at more
  exact more.trans front

theorem decode_take_of_le {bytes : List UInt8} {query : Query}
    (read : decode bytes = .ok query) {count : Nat}
    (enough : Header.size + query.questionLength ≤ count) :
    decode (bytes.take count) = .ok query := by
  apply decode_of_take_eq read
  rw [List.take_take, Nat.min_eq_left enough]

theorem decode_take_of_lt {bytes : List UInt8} {query : Query}
    (read : decode bytes = .ok query) {count : Nat}
    (less : count < Header.size + query.questionLength) :
    decode (bytes.take count) = .error .truncated := by
  by_cases truncated : decode (bytes.take count) = .error .truncated
  · exact truncated
  · have more := decode_append_of_ne_truncated truncated (bytes.drop count)
    rw [List.take_append_drop] at more
    have bound := length_le_of_decode (more.symm.trans read)
    rw [List.length_take] at bound
    omega

/-- More bytes change nothing but a lack of bytes. The header and as many bytes as
the question is long are exactly what a query is read from. -/
theorem decode_stable_with_exact_length (bytes more : List UInt8) :
    ((∀ error, decode bytes = .error error → error.kind = "InvalidData") →
        decode (bytes ++ more) = decode bytes) ∧
      ∀ query, decode bytes = .ok query →
        Header.size + query.questionLength ≤ bytes.length ∧
          (∀ count, Header.size + query.questionLength ≤ count →
            decode (bytes.take count) = .ok query) ∧
          (∀ count, count < Header.size + query.questionLength →
            decode (bytes.take count) = .error .truncated) ∧
          ∀ other, other.take (Header.size + query.questionLength) =
            bytes.take (Header.size + query.questionLength) → decode other = .ok query := by
  constructor
  · intro invalid
    apply decode_append_of_ne_truncated
    intro truncated
    exact absurd (invalid _ truncated) (by decide)
  intro query read
  exact ⟨length_le_of_decode read, fun count enough => decode_take_of_le read enough,
    fun count less => decode_take_of_lt read less,
    fun other agree => decode_of_take_eq read agree⟩

end StubDns.Query
