import Mathlib.Logic.ExistsUnique
import StubDns.Dns.Query
import StubDns.Proofs.Dns.NameReading

/-! # The forms of a query

What bytes are as a query, said without a reader: bytes without a full header,
a header that announces no question, a header with a complete question, a label
that is announced too long, or bytes that end too early. Bytes have exactly one
of these forms, and the form alone tells what reading them gives.
-/

namespace StubDns.Query

/-! ## Forms -/

/-- Bytes start with a header that announces a question and with labels that can
be read; `tail` is what follows these. -/
def LabelsThen (bytes : List UInt8) (header : Header) (labels : List (List UInt8))
    (tail : List UInt8) : Prop :=
  header.questions ≠ 0 ∧ Name.AllReadable labels ∧
    bytes = header.encode ++ (Name.encodeLabels labels ++ tail)

inductive Form
  /-- There is no full header. -/
  | shortHeader
  /-- The header announces no question. -/
  | noQuestion
  /-- There is a complete question, with `rest` behind it. -/
  | question (header : Header) (labels : List (List UInt8)) (qtype qclass : UInt16)
      (rest : List UInt8)
  /-- A label is announced longer than a label may be. -/
  | longLabel (length : UInt8)
  /-- The bytes end before the question does. -/
  | cutOff

namespace Form

/-- The bytes of a question behind its labels. -/
def trailer (qtype qclass : UInt16) (rest : List UInt8) : List UInt8 :=
  0 :: (wordBytes qtype ++ wordBytes qclass ++ rest)

/-- Bytes have a form. The question count is the word behind the fourth byte; what
has no other form ends too early. -/
def Describes (bytes : List UInt8) : Form → Prop
  | shortHeader => bytes.length < Header.size
  | noQuestion => Header.size ≤ bytes.length ∧ (bytes.drop 4).take 2 = [0, 0]
  | question header labels qtype qclass rest =>
      LabelsThen bytes header labels (trailer qtype qclass rest)
  | longLabel length =>
      Name.maxLabel < length.toNat ∧
        ∃ header labels rest, LabelsThen bytes header labels (length :: rest)
  | cutOff =>
      Header.size ≤ bytes.length ∧ (bytes.drop 4).take 2 ≠ [0, 0] ∧
        (∀ header labels qtype qclass rest,
          ¬ LabelsThen bytes header labels (trailer qtype qclass rest)) ∧
        ∀ length : UInt8, Name.maxLabel < length.toNat →
          ∀ header labels rest, ¬ LabelsThen bytes header labels (length :: rest)

/-- The query that is read of a question. -/
def query (header : Header) (labels : List (List UInt8)) (qtype qclass : UInt16) : Query where
  header := header
  domain := Name.text labels
  qtype := qtype
  qclass := qclass
  questionLength := (labels.map fun label => 1 + label.length).sum + 5

/-- What reading bytes of a form gives. -/
def outcome : Form → Except DecodeError Query
  | shortHeader => .error .truncated
  | noQuestion => .error .noQuestion
  | question header labels qtype qclass _ => .ok (query header labels qtype qclass)
  | longLabel length => .error (.labelTooLong length.toNat)
  | cutOff => .error .truncated

/-- The outcome with the kind and the wording of errors. -/
def report : Form → Except (String × String) Query
  | shortHeader => .error ("UnexpectedEof", "failed to fill whole buffer")
  | noQuestion => .error ("InvalidData", "query carries no question")
  | question header labels qtype qclass _ => .ok (query header labels qtype qclass)
  | longLabel length => .error ("InvalidData", s!"label length {length.toNat} exceeds 63")
  | cutOff => .error ("UnexpectedEof", "failed to fill whole buffer")

end Form

/-! ## Reading by parts -/

theorem decode_of_short {bytes : List UInt8} (short : bytes.length < Header.size) :
    decode bytes = .error .truncated := by
  rw [decode, Header.read?_eq_none_iff.mpr short]

theorem decode_of_questions_eq_zero {header : Header} (unannounced : header.questions = 0)
    (body : List UInt8) : decode (header.encode ++ body) = .error .noQuestion := by
  rw [decode, Header.read?_encode]
  simp [unannounced]

theorem decode_of_readLabels_error {header : Header} {body : List UInt8} {error : DecodeError}
    (announced : header.questions ≠ 0) (read : Name.readLabels body = .error error) :
    decode (header.encode ++ body) = .error error := by
  rw [decode, Header.read?_encode]
  simp [announced, read]

theorem length_trailer (qtype qclass : UInt16) (rest : List UInt8) :
    (Form.trailer qtype qclass rest).length = 5 + rest.length := by
  simp [Form.trailer]
  omega

theorem readLabels_trailer {labels : List (List UInt8)} (readable : Name.AllReadable labels)
    (qtype qclass : UInt16) (rest : List UInt8) :
    Name.readLabels (Name.encodeLabels labels ++ Form.trailer qtype qclass rest) =
      .ok (labels, wordBytes qtype ++ wordBytes qclass ++ rest) :=
  Name.readLabels_encodeLabels_zero readable _

theorem LabelsThen.decode_trailer {bytes : List UInt8} {header : Header}
    {labels : List (List UInt8)} {qtype qclass : UInt16} {rest : List UInt8}
    (starts : LabelsThen bytes header labels (Form.trailer qtype qclass rest)) :
    decode bytes = .ok (Form.query header labels qtype qclass) := by
  rcases starts with ⟨announced, readable, split⟩
  have read := readLabels_trailer readable qtype qclass rest
  have length : (Name.encodeLabels labels ++ Form.trailer qtype qclass rest).length - rest.length =
      (labels.map fun label => 1 + label.length).sum + 5 := by
    rw [List.length_append, Name.length_encodeLabels, length_trailer]
    omega
  rw [split, decode, Header.read?_encode]
  simp only [announced, read, wordBytes, List.cons_append, List.nil_append, wordOf_wordBytes]
  rw [length]
  rfl

/-! ## Every form has its outcome -/

theorem take_questions (header : Header) (body : List UInt8) :
    ((header.encode ++ body).drop 4).take 2 = wordBytes header.questions := rfl

theorem wordBytes_eq_zero_iff (word : UInt16) : wordBytes word = [0, 0] ↔ word = 0 := by
  constructor
  · intro equal
    have back := wordOf_wordBytes word
    simp only [wordBytes, List.cons.injEq, and_true] at equal
    rw [equal.1, equal.2] at back
    exact back.symm
  · intro equal
    rw [equal]
    rfl

/-- Bytes with a full header are the bytes of a header and what follows it. Its
question count is zero exactly if the word behind the fourth byte is. -/
theorem exists_header {bytes : List UInt8} (full : Header.size ≤ bytes.length) :
    ∃ (header : Header) (body : List UInt8), bytes = header.encode ++ body ∧
      ((bytes.drop 4).take 2 = [0, 0] ↔ header.questions = 0) := by
  cases read : Header.read? bytes with
  | none => exact absurd (Header.read?_eq_none_iff.mp read) (Nat.not_lt.mpr full)
  | some found =>
      have split := Header.read?_eq_some_iff.mp read
      refine ⟨found.1, found.2, split, ?_⟩
      rw [split, take_questions, wordBytes_eq_zero_iff]

theorem trailer_wordOf (typeHigh typeLow classHigh classLow : UInt8) (rest : List UInt8) :
    Form.trailer (wordOf typeHigh typeLow) (wordOf classHigh classLow) rest =
      0 :: typeHigh :: typeLow :: classHigh :: classLow :: rest := by
  simp [Form.trailer, wordBytes_wordOf]

theorem exists_trailer {after : List UInt8} (full : 4 ≤ after.length) :
    ∃ qtype qclass rest, 0 :: after = Form.trailer qtype qclass rest := by
  rcases after with _ | ⟨typeHigh, _ | ⟨typeLow, _ | ⟨classHigh, _ | ⟨classLow, rest⟩⟩⟩⟩
  · simp at full
  · simp at full
  · simp at full
  · simp at full
  · exact ⟨_, _, _, (trailer_wordOf typeHigh typeLow classHigh classLow rest).symm⟩

theorem decode_of_short_trailer {header : Header} {labels : List (List UInt8)}
    {after : List UInt8} (announced : header.questions ≠ 0) (readable : Name.AllReadable labels)
    (short : after.length < 4) :
    decode (header.encode ++ (Name.encodeLabels labels ++ 0 :: after)) = .error .truncated := by
  rw [decode, Header.read?_encode]
  simp only [announced, Name.readLabels_encodeLabels_zero readable]
  rcases after with _ | ⟨_, _ | ⟨_, _ | ⟨_, _ | ⟨_, _⟩⟩⟩⟩
  · rfl
  · rfl
  · rfl
  · rfl
  · exact absurd short (by simp)

theorem Form.Describes.decode_eq {bytes : List UInt8} {form : Form}
    (describes : form.Describes bytes) : decode bytes = form.outcome := by
  cases form with
  | shortHeader => exact decode_of_short describes
  | noQuestion =>
      rcases exists_header describes.1 with ⟨header, body, split, count⟩
      rw [split]
      exact decode_of_questions_eq_zero (count.mp describes.2) body
  | question header labels qtype qclass rest => exact LabelsThen.decode_trailer describes
  | longLabel length =>
      rcases describes with ⟨long, header, labels, rest, announced, readable, split⟩
      rw [split]
      apply decode_of_readLabels_error announced
      rw [Name.readLabels_encodeLabels readable, Name.readLabels_tooLong long]
      rfl
  | cutOff =>
      rcases describes with ⟨full, notZero, noQuestion, noLong⟩
      rcases exists_header full with ⟨header, body, split, count⟩
      have announced : header.questions ≠ 0 := fun zero => notZero (count.mpr zero)
      rcases Name.exists_labels_stop body with ⟨labels, stop, parts, readable, stops⟩
      have starts : LabelsThen bytes header labels stop := ⟨announced, readable, parts ▸ split⟩
      rw [starts.2.2]
      cases stops with
      | finished after =>
          by_cases full : 4 ≤ after.length
          · rcases exists_trailer full with ⟨qtype, qclass, rest, equal⟩
            rw [equal] at starts
            exact absurd starts (noQuestion header labels qtype qclass rest)
          · exact decode_of_short_trailer announced readable (Nat.lt_of_not_le full)
      | tooLong length rest long => exact absurd starts (noLong length long header labels rest)
      | missing =>
          apply decode_of_readLabels_error announced
          rw [Name.readLabels_encodeLabels readable, Name.readLabels_nil]
          rfl
      | cutOff length rest notZero fits short =>
          apply decode_of_readLabels_error announced
          rw [Name.readLabels_encodeLabels readable, Name.readLabels_cutOff notZero fits short]
          rfl

/-! ## Every bytes have one form -/

theorem Form.exists_describes (bytes : List UInt8) : ∃ form : Form, form.Describes bytes := by
  by_cases full : Header.size ≤ bytes.length
  · by_cases unannounced : (bytes.drop 4).take 2 = [0, 0]
    · exact ⟨.noQuestion, full, unannounced⟩
    by_cases complete : ∃ header labels qtype qclass rest,
        LabelsThen bytes header labels (trailer qtype qclass rest)
    · rcases complete with ⟨header, labels, qtype, qclass, rest, starts⟩
      exact ⟨.question header labels qtype qclass rest, starts⟩
    by_cases long : ∃ length : UInt8, Name.maxLabel < length.toNat ∧
        ∃ header labels rest, LabelsThen bytes header labels (length :: rest)
    · rcases long with ⟨length, long, starts⟩
      exact ⟨.longLabel length, long, starts⟩
    · refine ⟨.cutOff, full, unannounced, ?_, ?_⟩
      · intro header labels qtype qclass rest starts
        exact complete ⟨header, labels, qtype, qclass, rest, starts⟩
      · intro length tooLong header labels rest starts
        exact long ⟨length, tooLong, header, labels, rest, starts⟩
  · exact ⟨.shortHeader, Nat.lt_of_not_le full⟩

theorem wordBytes_append_inj {left right : UInt16} {leftRest rightRest : List UInt8}
    (equal : wordBytes left ++ leftRest = wordBytes right ++ rightRest) :
    left = right ∧ leftRest = rightRest := by
  simp only [wordBytes, List.cons_append, List.nil_append, List.cons.injEq] at equal
  refine ⟨?_, equal.2.2⟩
  rw [← wordOf_wordBytes left, ← wordOf_wordBytes right, equal.1, equal.2.1]

/-- The parts of a question are determined by the bytes. -/
theorem Form.question_unique {bytes : List UInt8} {left right : Header}
    {leftLabels rightLabels : List (List UInt8)} {leftType leftClass : UInt16}
    {rightType rightClass : UInt16} {leftRest rightRest : List UInt8}
    (leftStarts : LabelsThen bytes left leftLabels (trailer leftType leftClass leftRest))
    (rightStarts : LabelsThen bytes right rightLabels (trailer rightType rightClass rightRest)) :
    question left leftLabels leftType leftClass leftRest =
      question right rightLabels rightType rightClass rightRest := by
  rcases leftStarts with ⟨-, leftReadable, leftSplit⟩
  rcases rightStarts with ⟨-, rightReadable, rightSplit⟩
  have headers := Header.encode_append_inj (leftSplit.symm.trans rightSplit)
  have reading := readLabels_trailer rightReadable rightType rightClass rightRest
  rw [← headers.2, readLabels_trailer leftReadable, Except.ok.injEq, Prod.mk.injEq,
    List.append_assoc, List.append_assoc] at reading
  have types := wordBytes_append_inj reading.2
  have classes := wordBytes_append_inj types.2
  rw [headers.1, reading.1, types.1, classes.1, classes.2]

theorem Form.describes_unique {bytes : List UInt8} {left right : Form}
    (leftDescribes : left.Describes bytes) (rightDescribes : right.Describes bytes) :
    left = right := by
  have equal : left.outcome = right.outcome :=
    leftDescribes.decode_eq.symm.trans rightDescribes.decode_eq
  cases left with
  | shortHeader =>
      cases right with
      | shortHeader => rfl
      | cutOff => exact absurd leftDescribes (Nat.not_lt.mpr rightDescribes.1)
      | _ => cases equal
  | noQuestion =>
      cases right with
      | noQuestion => rfl
      | _ => cases equal
  | question header labels qtype qclass rest =>
      cases right with
      | question => exact question_unique leftDescribes rightDescribes
      | _ => cases equal
  | longLabel length =>
      cases right with
      | longLabel other =>
          simp only [outcome, Except.error.injEq, DecodeError.labelTooLong.injEq] at equal
          rw [UInt8.toNat_inj.mp equal]
      | _ => cases equal
  | cutOff =>
      cases right with
      | shortHeader => exact absurd rightDescribes (Nat.not_lt.mpr leftDescribes.1)
      | cutOff => rfl
      | _ => cases equal

/-! ## Results -/

theorem decode_eq_ok_iff {bytes : List UInt8} {query : Query} :
    decode bytes = .ok query ↔
      ∃ header labels qtype qclass rest,
        LabelsThen bytes header labels (Form.trailer qtype qclass rest) ∧
          query = Form.query header labels qtype qclass := by
  constructor
  · intro read
    rcases Form.exists_describes bytes with ⟨form, describes⟩
    rw [describes.decode_eq] at read
    cases form with
    | question header labels qtype qclass rest =>
        cases read
        exact ⟨header, labels, qtype, qclass, rest, describes, rfl⟩
    | _ => cases read
  · rintro ⟨header, labels, qtype, qclass, rest, starts, equal⟩
    rw [equal]
    exact starts.decode_trailer

theorem LabelsThen.drop_header {bytes : List UInt8} {header : Header}
    {labels : List (List UInt8)} {tail : List UInt8}
    (starts : LabelsThen bytes header labels tail) :
    bytes.drop Header.size = Name.encodeLabels labels ++ tail := by
  rw [starts.2.2, Header.drop_encode_append]

theorem LabelsThen.length_eq {bytes : List UInt8} {header : Header}
    {labels : List (List UInt8)} {qtype qclass : UInt16} {rest : List UInt8}
    (starts : LabelsThen bytes header labels (Form.trailer qtype qclass rest)) :
    bytes.length =
      Header.size + (Form.query header labels qtype qclass).questionLength + rest.length := by
  rw [starts.2.2, List.length_append, List.length_append, Header.length_encode,
    Name.length_encodeLabels, length_trailer]
  simp only [Form.query]
  omega

theorem length_le_of_decode {bytes : List UInt8} {query : Query}
    (read : decode bytes = .ok query) :
    Header.size + query.questionLength ≤ bytes.length := by
  rcases decode_eq_ok_iff.mp read with ⟨header, labels, qtype, qclass, rest, starts, equal⟩
  rw [starts.length_eq, equal]
  omega

/-- The outcome of reading with the kind and the wording of an error. -/
def report (read : Except DecodeError Query) : Except (String × String) Query :=
  read.mapError fun error => (error.kind, error.message)

theorem message_labelTooLong (length : Nat) :
    (DecodeError.labelTooLong length).message = s!"label length {length} exceeds 63" := by
  have wording : toString " exceeds " ++ toString Name.maxLabel = toString " exceeds 63" := by
    decide
  rw [DecodeError.message, String.append_assoc, wording]

theorem Form.report_outcome (form : Form) : Query.report form.outcome = form.report := by
  cases form with
  | longLabel length =>
      change Except.error (_, DecodeError.message _) = _
      rw [message_labelTooLong]
      rfl
  | _ => rfl

/-- Bytes have exactly one form, and reading them gives what the form says. The
reader never stands before the end of the header when the question has been read,
and it takes no length byte for the place of another name. -/
theorem decode_classified_by_form (bytes : List UInt8) :
    (∃! form : Form, form.Describes bytes) ∧
      (∀ form : Form, form.Describes bytes → report (decode bytes) = form.report) ∧
      (∀ query, decode bytes = .ok query →
        Header.size + query.questionLength ≤ bytes.length) ∧
      ∀ header labels rest, ∀ pointer : UInt8, 0xC0 ≤ pointer.toNat →
        LabelsThen bytes header labels (pointer :: rest) →
          decode bytes = .error (.labelTooLong pointer.toNat) := by
  refine ⟨?_, ?_, fun query read => length_le_of_decode read, ?_⟩
  · rcases Form.exists_describes bytes with ⟨form, describes⟩
    exact ⟨form, describes, fun other otherDescribes =>
      Form.describes_unique otherDescribes describes⟩
  · intro form describes
    rw [describes.decode_eq, form.report_outcome]
  · intro header labels rest pointer high starts
    have long : Name.maxLabel < pointer.toNat := Nat.lt_of_lt_of_le (by decide) high
    have describes : Form.Describes bytes (.longLabel pointer) :=
      ⟨long, header, labels, rest, starts⟩
    exact describes.decode_eq

end StubDns.Query
