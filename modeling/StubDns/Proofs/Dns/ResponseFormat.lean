import StubDns.Proofs.Dns.QueryRoundTrip
import StubDns.Proofs.Dns.Responses

/-! # The format of responses

What a response to a query is on the wire: which bytes it has, what its counts and
flags say, and where the name of its record is found. A reader of the response sees
the queried name, and nothing of a request but its identifier, one flag and its
question is seen in the response.
-/

namespace StubDns.RecordTable

/-! ## Records of a response -/

/-- The position that two bytes point to in the place of a name. -/
def pointedPosition? : List UInt8 → Option Nat
  | high :: low :: _ =>
      if 0xC0 ≤ high then some (high.toNat % 0x40 * 0x100 + low.toNat) else none
  | _ => none

/-- The records that answer a query, one by one. -/
def answers (table : RecordTable) (query : Query) : List (List UInt8) :=
  ((table.answer? query).map (encodeAnswer table.ttl)).toList

theorem flatten_answers (table : RecordTable) (query : Query) :
    (table.answers query).flatten = table.answerSection query := by
  rw [answers, answerSection]
  cases table.answer? query with
  | none => rfl
  | some address => exact List.append_nil _

theorem length_answers (table : RecordTable) (query : Query) :
    (table.answers query).length = (table.responseHeader query).answers.toNat := by
  rw [answers, responseHeader]
  cases table.answer? query <;> rfl

theorem answer?_eq_some_iff {table : RecordTable} {query : Query} {address : Ipv4} :
    table.answer? query = some address ↔
      table.lookup query.domain = some address ∧ query.qtype = 1 ∧ query.qclass = 1 := by
  rw [answer?, Option.filter_eq_some_iff, Bool.and_eq_true, decide_eq_true_eq, decide_eq_true_eq]
  rfl

theorem mem_answers_iff {table : RecordTable} {query : Query} {record : List UInt8} :
    record ∈ table.answers query ↔
      ∃ address, table.answer? query = some address ∧ encodeAnswer table.ttl address = record := by
  simp [answers]

/-! ## Header fields -/

theorem responseHeader_flags (table : RecordTable) (query : Query) :
    (table.responseHeader query).flags =
      0x8080 ||| (query.header.flags &&& 0x0100)
        ||| (if table.lookup query.domain = none then 3 else 0) := by
  have code : (table.responseCode query).code =
      if table.lookup query.domain = none then 3 else 0 := by
    rw [responseCode]
    cases table.lookup query.domain <;> rfl
  have marks : responseFlag ||| recursionAvailable = 0x8080 := by decide
  rw [← code, ← marks, UInt16.or_assoc responseFlag recursionAvailable,
    UInt16.or_comm recursionAvailable, ← UInt16.or_assoc]
  rfl

theorem responseHeader_answers (table : RecordTable) (query : Query) :
    (table.responseHeader query).answers =
      if table.lookup query.domain ≠ none ∧ query.qtype = 1 ∧ query.qclass = 1 then 1 else 0 := by
  have asked : (table.answer? query).isSome = true ↔
      table.lookup query.domain ≠ none ∧ query.qtype = 1 ∧ query.qclass = 1 := by
    rw [Option.isSome_iff_exists, Option.ne_none_iff_exists']
    simp only [answer?_eq_some_iff, exists_and_right]
  simp only [responseHeader, asked]

/-! ## Well-formed responses -/

/-- What a response is: its bytes are a header, the question of the request and the
records that the header counts. Flags and counts follow from the query and from what
the table has for its domain. Read again, the response asks the same, and its records
point at the name that was asked for. -/
structure WellFormed (table : RecordTable) (request : List UInt8) (query : Query)
    (header : Header) (records : List (List UInt8)) (response : List UInt8) : Prop where
  parts : response =
    header.encode ++ ((request.drop 12).take query.questionLength ++ records.flatten)
  questionSize : ((request.drop 12).take query.questionLength).length = query.questionLength
  record : ∀ record ∈ records, record.length = 16 ∧
    ∃ address, table.lookup query.domain = some address ∧
      record = [0xC0, 0x0C, 0, 1, 0, 1] ++ (doubleWordBytes table.ttl
        ++ ([0, 4] ++ address.octets))
  sameId : header.id = query.header.id
  flags : header.flags = 0x8080 ||| (query.header.flags &&& 0x0100)
    ||| (if table.lookup query.domain = none then 3 else 0)
  questions : header.questions = 1
  count : records.length = header.answers.toNat
  answered : header.answers =
    if table.lookup query.domain ≠ none ∧ query.qtype = 1 ∧ query.qclass = 1 then 1 else 0
  authorities : header.authorities = 0
  additionals : header.additionals = 0
  read : Query.decode response = .ok { query with header := header }
  pointer : ∀ record ∈ records, ∃ position labels after,
    pointedPosition? record = some position ∧
      Name.readLabels (response.drop position) = .ok (labels, after) ∧
      Name.text labels = query.domain

theorem wellFormed_response {table : RecordTable} {request : List UInt8} {query : Query}
    (read : Query.decode request = .ok query) :
    WellFormed table request query (table.responseHeader query) (table.answers query)
      (table.response request query) where
  parts := by
    rw [flatten_answers]
    rfl
  questionSize := Query.length_questionBytes (Query.length_le_of_decode read)
  record := by
    intro record member
    rcases mem_answers_iff.mp member with ⟨address, answered, equal⟩
    rw [← equal]
    exact ⟨length_encodeAnswer table.ttl address, address,
      (answer?_eq_some_iff.mp answered).1, rfl⟩
  sameId := rfl
  flags := responseHeader_flags table query
  questions := rfl
  count := length_answers table query
  answered := responseHeader_answers table query
  authorities := rfl
  additionals := rfl
  read := decode_response read
  pointer := by
    intro record member
    rcases mem_answers_iff.mp member with ⟨address, answered, equal⟩
    rcases Query.readLabels_of_decode (decode_response read) with ⟨labels, after, name, same⟩
    refine ⟨12, labels, after, ?_, name, same⟩
    rw [← equal]
    rfl

/-! ## Requests that get the same response -/

/-- Of the header of a query only the identifier and one flag are seen in a response. -/
theorem responseHeader_congr (table : RecordTable) {left right : Query}
    (sameQuestion : { left with header := right.header } = right)
    (sameId : left.header.id = right.header.id)
    (sameFlag : left.header.flags &&& QueryOptions.recursionDesired =
      right.header.flags &&& QueryOptions.recursionDesired) :
    table.responseHeader left = table.responseHeader right := by
  rw [← sameQuestion]
  simp only [responseHeader, responseCode, answer?, sameId, sameFlag]
  rfl

/-- Of a table and a domain only what is found is seen in a response. -/
theorem response_parts_congr {table other : RecordTable} {left right : Query}
    (ttl : table.ttl = other.ttl) (header : left.header = right.header)
    (qtype : left.qtype = right.qtype) (qclass : left.qclass = right.qclass)
    (found : table.lookup left.domain = other.lookup right.domain) :
    table.responseHeader left = other.responseHeader right ∧
      table.answerSection left = other.answerSection right := by
  have code : table.responseCode left = other.responseCode right := by
    rw [responseCode, responseCode, found]
  have answer : table.answer? left = other.answer? right := by
    rw [answer?, answer?, qtype, qclass, found]
  constructor
  · rw [responseHeader, responseHeader, header, code, answer]
  · rw [answerSection, answerSection, answer, ttl]

theorem response_congr (table : RecordTable) {request other : List UInt8}
    {query otherQuery : Query} (read : Query.decode request = .ok query)
    (otherRead : Query.decode other = .ok otherQuery)
    (sameId : otherQuery.header.id = query.header.id)
    (sameFlag : otherQuery.header.flags &&& QueryOptions.recursionDesired =
      query.header.flags &&& QueryOptions.recursionDesired)
    (sameBytes : otherQuery.questionBytes other = query.questionBytes request) :
    table.response other otherQuery = table.response request query := by
  have sameQuestion := Query.question_eq_of_questionBytes_eq otherRead read sameBytes
  have sameAnswers : table.answerSection otherQuery = table.answerSection query := by
    rw [← sameQuestion]
    rfl
  rw [response, response, responseHeader_congr table sameQuestion sameId sameFlag, sameBytes,
    sameAnswers]

/-- A query that was read has a response, and the response is well formed. It is the
same for every request with the same identifier, the same wish for recursion and the
same bytes of a question. -/
theorem respond?_wellFormed (table : RecordTable) {request : List UInt8} {query : Query}
    (read : Query.decode request = .ok query) :
    (∃ header records response, table.respond? request query = some response ∧
      WellFormed table request query header records response) ∧
    ∀ other otherQuery, Query.decode other = .ok otherQuery →
      otherQuery.header.id = query.header.id →
      otherQuery.header.flags &&& 0x0100 = query.header.flags &&& 0x0100 →
      (other.drop 12).take otherQuery.questionLength =
        (request.drop 12).take query.questionLength →
      table.respond? other otherQuery = table.respond? request query := by
  constructor
  · exact ⟨table.responseHeader query, table.answers query, table.response request query,
      respond?_of_decode read, wellFormed_response read⟩
  · intro other otherQuery otherRead sameId sameFlag sameBytes
    rw [respond?_of_decode read, respond?_of_decode otherRead,
      response_congr table read otherRead sameId sameFlag sameBytes]

/-- A request that announces two questions and seven more records, under another
operation, and a plain request for the same domain. -/
theorem respond?_wellFormed_of_crowded_request :
    ∃ query header records response plain plainQuery,
      Query.decode ((⟨0x1234, 0x2910, 2, 1, 0, 7⟩ : Header).encode
          ++ (Query.encodeQuestion "Z.cn".toList 1 1 ++ [9, 9, 9])) = .ok query ∧
        WellFormed (make [("z.CN".toList, ⟨1, 2, 3, 4⟩)] 60)
          ((⟨0x1234, 0x2910, 2, 1, 0, 7⟩ : Header).encode
            ++ (Query.encodeQuestion "Z.cn".toList 1 1 ++ [9, 9, 9]))
          query header records response ∧
        header = ⟨0x1234, 0x8180, 1, 1, 0, 0⟩ ∧
        plain = (Query.make "Z.cn".toList ⟨0x1234, 0x0100, 1, 1⟩).encode ∧
        Query.decode plain = .ok plainQuery ∧
        (make [("z.CN".toList, ⟨1, 2, 3, 4⟩)] 60).respond? plain plainQuery = some response := by
  have writable : Name.Writable "Z.cn".toList := .inr (by decide)
  have announced : (⟨0x1234, 0x2910, 2, 1, 0, 7⟩ : Header).questions ≠ 0 := by decide
  have read := Query.decode_encodeQuestion writable announced 1 1 [9, 9, 9]
  have plainRead := Query.decode_encode_make writable ⟨0x1234, 0x0100, 1, 1⟩
  rcases respond?_wellFormed (make [("z.CN".toList, ⟨1, 2, 3, 4⟩)] 60) read with
    ⟨⟨header, records, response, made, wellFormed⟩, others⟩
  have same := others _ _ plainRead rfl rfl rfl
  have fields : header = ⟨header.id, header.flags, header.questions, header.answers,
      header.authorities, header.additionals⟩ := rfl
  rw [wellFormed.sameId, wellFormed.flags, wellFormed.questions, wellFormed.answered,
    wellFormed.authorities, wellFormed.additionals] at fields
  refine ⟨_, header, records, response, _, _, read, wellFormed, ?_, rfl, plainRead, same.trans made⟩
  rw [fields]
  decide

end StubDns.RecordTable
