import StubDns.Dns.RecordTable
import StubDns.Proofs.Dns.QueryStability

/-! # Responses

A response is a header, the bytes of the question and at most one record. A
request that was read holds its question, so there always is a response to it;
and because the question is repeated byte for byte, the response reads as the
same query under another header.
-/

namespace StubDns.RecordTable

/-! ## The parts of a response -/

/-- The records behind the question of a response. -/
def answerSection (table : RecordTable) (query : Query) : List UInt8 :=
  match table.answer? query with
  | some address => encodeAnswer table.ttl address
  | none => []

theorem length_answerSection_le (table : RecordTable) (query : Query) :
    (table.answerSection query).length ≤ 16 := by
  unfold answerSection
  split
  · next address _ => exact Nat.le_of_eq (length_encodeAnswer table.ttl address)
  · exact Nat.zero_le 16

/-- The response to a request that holds the question of a query. -/
def response (table : RecordTable) (request : List UInt8) (query : Query) : List UInt8 :=
  (table.responseHeader query).encode ++ (query.questionBytes request ++ table.answerSection query)

theorem respond?_eq_some {table : RecordTable} {request : List UInt8} {query : Query}
    (enough : Header.size + query.questionLength ≤ request.length) :
    table.respond? request query = some (table.response request query) := by
  rw [respond?, if_neg (Nat.not_lt.mpr enough), response, ← List.append_assoc]
  rfl

theorem respond?_of_decode {table : RecordTable} {request : List UInt8} {query : Query}
    (read : Query.decode request = .ok query) :
    table.respond? request query = some (table.response request query) :=
  respond?_eq_some (Query.length_le_of_decode read)

theorem length_response {table : RecordTable} {request : List UInt8} {query : Query}
    (enough : Header.size + query.questionLength ≤ request.length) :
    (table.response request query).length =
      Header.size + query.questionLength + (table.answerSection query).length := by
  rw [response, List.length_append, List.length_append, Header.length_encode,
    Query.length_questionBytes enough, Nat.add_assoc]

theorem drop_header_response (table : RecordTable) (request : List UInt8) (query : Query) :
    (table.response request query).drop Header.size =
      query.questionBytes request ++ table.answerSection query := by
  rw [response, Header.drop_encode_append]

/-- The question of a request is found again in the response. -/
theorem questionBytes_response {table : RecordTable} {request : List UInt8} {query : Query}
    (enough : Header.size + query.questionLength ≤ request.length) :
    query.questionBytes (table.response request query) = query.questionBytes request := by
  have length := Query.length_questionBytes enough
  rw [Query.questionBytes, drop_header_response]
  exact List.take_left' length

theorem drop_response {table : RecordTable} {request : List UInt8} {query : Query}
    (enough : Header.size + query.questionLength ≤ request.length) :
    (table.response request query).drop (Header.size + query.questionLength) =
      table.answerSection query := by
  rw [← List.drop_drop, drop_header_response, ← Query.length_questionBytes enough,
    List.drop_left]

theorem decode_response {table : RecordTable} {request : List UInt8} {query : Query}
    (read : Query.decode request = .ok query) :
    Query.decode (table.response request query) =
      .ok { query with header := table.responseHeader query } := by
  have announced : (table.responseHeader query).questions ≠ 0 := by
    change (1 : UInt16) ≠ 0
    decide
  exact Query.decode_questionBytes read announced (table.answerSection query)

/-! ## Responses to questions for addresses -/

section Address

variable {table : RecordTable} {query : Query}

theorem answer?_eq_lookup (qtype : query.qtype = QueryOptions.typeA)
    (qclass : query.qclass = QueryOptions.classIn) :
    table.answer? query = table.lookup query.domain := by
  rw [answer?, qtype, qclass]
  cases table.lookup query.domain <;> rfl

theorem answerSection_of_lookup (qtype : query.qtype = QueryOptions.typeA)
    (qclass : query.qclass = QueryOptions.classIn) {address : Ipv4}
    (found : table.lookup query.domain = some address) :
    table.answerSection query = encodeAnswer table.ttl address := by
  rw [answerSection, answer?_eq_lookup qtype qclass, found]

theorem answerSection_of_unknown (unknown : table.lookup query.domain = none) :
    table.answerSection query = [] := by
  rw [answerSection, answer?, unknown]
  rfl

theorem responseHeader_of_lookup (qtype : query.qtype = QueryOptions.typeA)
    (qclass : query.qclass = QueryOptions.classIn) {address : Ipv4}
    (found : table.lookup query.domain = some address) :
    table.responseHeader query = {
      id := query.header.id
      flags := responseFlag ||| (query.header.flags &&& QueryOptions.recursionDesired)
        ||| recursionAvailable ||| ResponseCode.noError.code
      questions := 1
      answers := 1
      authorities := 0
      additionals := 0 } := by
  rw [responseHeader, responseCode, answer?_eq_lookup qtype qclass, found]
  rfl

theorem responseHeader_of_unknown (unknown : table.lookup query.domain = none) :
    table.responseHeader query = {
      id := query.header.id
      flags := responseFlag ||| (query.header.flags &&& QueryOptions.recursionDesired)
        ||| recursionAvailable ||| ResponseCode.noSuchName.code
      questions := 1
      answers := 0
      authorities := 0
      additionals := 0 } := by
  rw [responseHeader, responseCode, answer?, unknown]
  rfl

end Address

/-- An answer ends with the time, the size of an address and the address. -/
theorem drop_encodeAnswer (ttl : UInt32) (address : Ipv4) :
    (encodeAnswer ttl address).drop 6 = doubleWordBytes ttl ++ ([0, 4] ++ address.octets) := rfl

end StubDns.RecordTable
