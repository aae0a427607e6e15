import StubDns.Proofs.Dns.QueryRoundTrip
import StubDns.Proofs.Server.Steps

/-! # Datagrams that are cut

A server reads the first 512 bytes of a datagram. Its reader goes no further than the
end of a question, so that a question within these bytes is read as in the whole
datagram; a question that is longer lacks bytes, and what is no query with all its
bytes is none with fewer.
-/

namespace StubDns.Server

section Reading

variable {datagram : Datagram} {query : Query}

theorem decode_received_of_fits (read : Query.decode datagram = .ok query)
    (fits : Header.size + query.questionLength ≤ maxDatagram) :
    Query.decode (received datagram) = .ok query :=
  Query.decode_take_of_le read fits

theorem decode_received_of_exceeds (read : Query.decode datagram = .ok query)
    (exceeds : maxDatagram < Header.size + query.questionLength) :
    Query.decode (received datagram) = .error .truncated :=
  Query.decode_take_of_lt read exceeds

/-- A cut can hide what is wrong with a datagram, but nothing else. -/
theorem decode_received_of_error {error : DecodeError}
    (read : Query.decode datagram = .error error) :
    Query.decode (received datagram) = .error .truncated ∨
      Query.decode (received datagram) = .error error := by
  by_cases truncated : Query.decode (received datagram) = .error .truncated
  · exact .inl truncated
  · right
    have more := Query.decode_append_of_ne_truncated truncated (datagram.drop maxDatagram)
    rw [received, List.take_append_drop] at more
    exact more.symm.trans read

theorem questionBytes_received (fits : Header.size + query.questionLength ≤ maxDatagram) :
    query.questionBytes (received datagram) = query.questionBytes datagram := by
  have inside : query.questionLength ≤ maxDatagram - Header.size := by omega
  rw [Query.questionBytes, received, List.drop_take, List.take_take, Nat.min_eq_left inside,
    Query.questionBytes]

theorem response_received (table : RecordTable)
    (fits : Header.size + query.questionLength ≤ maxDatagram) :
    table.response (received datagram) query = table.response datagram query := by
  rw [RecordTable.response, questionBytes_received fits, RecordTable.response]

/-- A cut spares the question of a response, since the request held it within the cut. -/
theorem decode_received_of_response (table : RecordTable) {request : Datagram}
    (read : Query.decode request = .ok query) (short : request.length ≤ maxDatagram) :
    Query.decode (received (table.response request query)) =
      .ok { query with header := table.responseHeader query } := by
  have fits : Header.size + query.questionLength ≤ maxDatagram :=
    Nat.le_trans (Query.length_le_of_decode read) short
  exact decode_received_of_fits (RecordTable.decode_response read) fits

end Reading

/-! ## Steps -/

section Steps

variable {table : RecordTable} {buffer datagram : Datagram} {query : Query}

theorem step_of_fits (full : buffer.length = maxDatagram)
    (read : Query.decode datagram = .ok query)
    (fits : Header.size + query.questionLength ≤ maxDatagram) :
    (step table buffer datagram).1 = ⟨.reply (table.response datagram query),
      .asked query.header.id query.domain query.qtype⟩ := by
  rw [step_eq full, handle_of_decode (decode_received_of_fits read fits),
    response_received table fits]

theorem step_of_error (full : buffer.length = maxDatagram) {error : DecodeError}
    (read : Query.decode (received datagram) = .error error) :
    (step table buffer datagram).1 =
      ⟨.drop, .dropped (min maxDatagram datagram.length) error⟩ := by
  have length : (received datagram).length = min maxDatagram datagram.length := List.length_take
  rw [step_eq full, ← length]
  simp only [handle, read]

theorem step_of_exceeds (full : buffer.length = maxDatagram)
    (read : Query.decode datagram = .ok query)
    (exceeds : maxDatagram < Header.size + query.questionLength) :
    (step table buffer datagram).1 = ⟨.drop, .dropped maxDatagram .truncated⟩ := by
  have long : maxDatagram ≤ datagram.length :=
    Nat.le_trans (Nat.le_of_lt exceeds) (Query.length_le_of_decode read)
  rw [step_of_error full (decode_received_of_exceeds read exceeds), Nat.min_eq_left long]

theorem step_of_unreadable (full : buffer.length = maxDatagram) {error : DecodeError}
    (read : Query.decode datagram = .error error) :
    ∃ cutError, Query.decode (received datagram) = .error cutError ∧
      (step table buffer datagram).1 =
        ⟨.drop, .dropped (min maxDatagram datagram.length) cutError⟩ := by
  rcases decode_received_of_error read with cut | cut
  · exact ⟨.truncated, cut, step_of_error full cut⟩
  · exact ⟨error, cut, step_of_error full cut⟩

/-- A reply is the response to a query that is read of the whole datagram. -/
theorem decode_of_reply (full : buffer.length = maxDatagram) {response : Datagram}
    (replied : (step table buffer datagram).1.reaction = .reply response) :
    ∃ query, Query.decode datagram = .ok query ∧ response = table.response datagram query := by
  cases read : Query.decode datagram with
  | error error =>
      have unreadable : ∃ cutError, _ ∧ (step table buffer datagram).1 = ⟨.drop, _⟩ :=
        step_of_unreadable full read
      rcases unreadable with ⟨cutError, -, dropped⟩
      rw [dropped] at replied
      cases replied
  | ok query =>
      by_cases fits : Header.size + query.questionLength ≤ maxDatagram
      · rw [step_of_fits full read fits] at replied
        cases replied
        exact ⟨query, rfl, rfl⟩
      · rw [step_of_exceeds full read (Nat.lt_of_not_le fits)] at replied
        cases replied

end Steps

/-- What a server does with a datagram is what it would do with all of its bytes, unless
its question does not end within the bytes that are read: then it is dropped. So a
reply asks what the whole datagram asks. -/
theorem step_reads_whole_question (table : RecordTable) {buffer : Datagram}
    (full : buffer.length = 512) (datagram : Datagram) :
    (∀ query, Query.decode datagram = .ok query → 12 + query.questionLength ≤ 512 →
      Query.decode (datagram.take 512) = .ok query ∧
        ∃ response, table.respond? datagram query = some response ∧
          (step table buffer datagram).1 =
            ⟨.reply response, .asked query.header.id query.domain query.qtype⟩) ∧
    (∀ query, Query.decode datagram = .ok query → 512 < 12 + query.questionLength →
      Query.decode (datagram.take 512) = .error .truncated ∧
        (step table buffer datagram).1 = ⟨.drop, .dropped 512 .truncated⟩) ∧
    (∀ error, Query.decode datagram = .error error →
      ∃ cutError, Query.decode (datagram.take 512) = .error cutError ∧
        (step table buffer datagram).1 =
          ⟨.drop, .dropped (min 512 datagram.length) cutError⟩) ∧
    ∀ response, (step table buffer datagram).1.reaction = .reply response →
      ∃ query answer, Query.decode datagram = .ok query ∧ Query.decode response = .ok answer ∧
        answer.header.id = query.header.id ∧ answer.domain = query.domain ∧
        answer.qtype = query.qtype ∧ answer.qclass = query.qclass := by
  refine ⟨?_, ?_, fun error read => step_of_unreadable full read, ?_⟩
  · intro query read fits
    exact ⟨decode_received_of_fits read fits, table.response datagram query,
      RecordTable.respond?_of_decode read, step_of_fits full read fits⟩
  · intro query read exceeds
    exact ⟨decode_received_of_exceeds read exceeds, step_of_exceeds full read exceeds⟩
  · intro response replied
    rcases decode_of_reply full replied with ⟨query, read, equal⟩
    rw [equal]
    exact ⟨query, _, read, RecordTable.decode_response read, rfl, rfl, rfl, rfl⟩

/-- Nine labels of 63 bytes are a name that does not fit, and a short name fits
whatever follows it. -/
theorem step_reads_whole_question_of_long_datagrams :
    (∃ query, Query.decode ((Query.make "z.cn".toList .standard).encode
          ++ List.replicate 600 0xFF) = .ok query ∧
        ∃ response, (step (.make [("z.cn".toList, ⟨1, 2, 3, 4⟩)] 60) freshBuffer
          ((Query.make "z.cn".toList .standard).encode ++ List.replicate 600 0xFF)).1 =
            ⟨.reply response, .asked 0x0A0B "z.cn".toList 1⟩) ∧
      (step (.make [("z.cn".toList, ⟨1, 2, 3, 4⟩)] 60) freshBuffer
        (Query.make (Text.join '.' (List.replicate 9 (List.replicate 63 'a'))) .standard).encode).1
        = ⟨.drop, .dropped 512 .truncated⟩ := by
  have full : freshBuffer.length = 512 := List.length_replicate
  constructor
  · have read := Query.decode_encode_make (.inr (by decide) : Name.Writable "z.cn".toList) .standard
    have enough : Query.decode (Query.make "z.cn".toList .standard).encode ≠ .error .truncated := by
      rw [read]
      intro equal
      cases equal
    have longer := (Query.decode_append_of_ne_truncated enough (List.replicate 600 0xFF)).trans read
    rcases (step_reads_whole_question (.make [("z.cn".toList, ⟨1, 2, 3, 4⟩)] 60) full _).1 _ longer
      (by decide) with ⟨-, response, -, replied⟩
    exact ⟨_, longer, response, replied⟩
  · have writable : Name.Writable (Text.join '.' (List.replicate 9 (List.replicate 63 'a'))) :=
      .inr (by decide +kernel)
    have read := Query.decode_encode_make writable .standard
    exact ((step_reads_whole_question _ full _).2.1 _ read (by decide +kernel)).2

end StubDns.Server
