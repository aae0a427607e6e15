import Mathlib.Data.List.TakeDrop
import StubDns.Proofs.Dns.Reencoding
import StubDns.Proofs.Dns.ResponseFormat
import StubDns.Proofs.Server.Agreement
import StubDns.Proofs.Server.CutDatagrams
import StubDns.Proofs.Text.AsciiLetters

/-! # Sizes of replies

A server answers what it has read of a datagram, and an answer is 16 bytes longer than its
question. So a reply can be longer than what a client reads: if it has an answer to a
question of more than 484 bytes. Such a question asks for a name of more than 478 bytes, and
a server that knows no such name sends replies that are read whole.
-/

namespace StubDns

/-! ## Questions and their domains -/

/-- A domain that was read is at least as long as the labels of the question. -/
theorem Query.questionLength_le_of_decode {bytes : List UInt8} {query : Query}
    (read : decode bytes = .ok query) :
    query.questionLength ≤ (Utf8.encode query.domain).length + 6 := by
  rcases decode_eq_ok_iff.mp read with ⟨header, labels, qtype, qclass, rest, _, equal⟩
  subst equal
  change (labels.map fun label => 1 + label.length).sum + 5 ≤
    (Utf8.encode (Name.text labels)).length + 6
  by_cases some : labels = []
  · rw [some]
    exact Nat.le_add_left 5 1
  · have size := Utf8.length_encode_join
      (show labels.map Utf8.decodeLossy ≠ [] by simpa using some)
    have bound := (Name.sum_length_decodeLossy labels).1
    rw [Name.text]
    omega

namespace RecordTable

variable {table : RecordTable} {request : List UInt8} {query : Query}

theorem length_answerSection (table : RecordTable) (query : Query) :
    (table.answerSection query).length = 16 * (table.answers query).length := by
  rw [answerSection, answers]
  cases table.answer? query <;> rfl

theorem length_response_eq (read : Query.decode request = .ok query) :
    (table.response request query).length =
      12 + query.questionLength + 16 * (table.answers query).length := by
  rw [length_response (Query.length_le_of_decode read), length_answerSection, Header.size]

theorem length_answers_of_ne_nil (answered : table.answers query ≠ []) :
    (table.answers query).length = 1 := by
  rw [answers] at answered ⊢
  cases found : table.answer? query with
  | none =>
      rw [found] at answered
      exact absurd rfl answered
  | some address => rfl

/-- A domain that is known has as many bytes as a name of the table. -/
theorem exists_name_of_answers (answered : table.answers query ≠ []) :
    ∃ entry ∈ table.records, (Utf8.encode entry.1).length = (Utf8.encode query.domain).length := by
  cases answer : table.answer? query with
  | none =>
      rw [answers, answer] at answered
      exact absurd rfl answered
  | some address =>
      have known := (answer?_eq_some_iff.mp answer).1
      exact ⟨_, AddressBook.mem_of_find?_eq_some known, Utf8.length_encode_foldAscii query.domain⟩

/-- A response that has an answer exceeds what is read of a datagram if its question does so
with the answer behind it. -/
theorem length_response_le_iff (read : Query.decode request = .ok query)
    (short : request.length ≤ maxDatagram) :
    (table.response request query).length ≤ maxDatagram ↔
      table.answers query = [] ∨ query.questionLength ≤ 484 := by
  have inside := Query.length_le_of_decode read
  rw [length_response_eq read]
  rw [maxDatagram] at short ⊢
  rw [Header.size] at inside
  by_cases answered : table.answers query = []
  · rw [answered, List.length_nil]
    simp only [true_or, iff_true]
    omega
  · rw [length_answers_of_ne_nil answered, or_iff_right answered]
    omega

theorem length_response_le_of_names (read : Query.decode request = .ok query)
    (short : request.length ≤ maxDatagram)
    (names : ∀ entry ∈ table.records, (Utf8.encode entry.1).length ≤ 478) :
    (table.response request query).length ≤ maxDatagram := by
  rw [length_response_le_iff read short]
  by_cases answered : table.answers query = []
  · exact .inl answered
  · right
    rcases exists_name_of_answers answered with ⟨entry, member, size⟩
    have name := names entry member
    have question := Query.questionLength_le_of_decode read
    omega

/-- What is read of a response that is too long is its question and less than its answer. -/
theorem decode_received_response (read : Query.decode request = .ok query)
    (short : request.length ≤ maxDatagram)
    (exceeds : maxDatagram < (table.response request query).length) :
    (table.answers query).length = 1 ∧
      Query.decode (received (table.response request query)) =
        .ok { query with header := table.responseHeader query } ∧
      ((received (table.response request query)).drop (12 + query.questionLength)).length < 16 := by
  have tooLong := fun answered =>
    Nat.not_le.mpr exceeds ((length_response_le_iff read short).mpr (.inl answered))
  have one := length_answers_of_ne_nil tooLong
  refine ⟨one, Server.decode_received_of_response table read short, ?_⟩
  have length : (table.response request query).length = _ := length_response_eq read
  rw [received, List.length_drop, List.length_take, Nat.min_eq_left (Nat.le_of_lt exceeds)]
  omega

end RecordTable

namespace Server

variable {table : RecordTable} {buffer datagram response : Datagram}

theorem received_eq_self_iff : received response = response ↔ response.length ≤ 512 :=
  List.take_eq_self_iff response

theorem exists_query_of_reply (full : buffer.length = maxDatagram)
    (replied : (step table buffer datagram).1.reaction = .reply response) :
    ∃ query, Query.decode (received datagram) = .ok query ∧
      response = table.response (received datagram) query := by
  rw [step_eq full] at replied
  cases read : Query.decode (received datagram) with
  | error error =>
      simp only [handle, read] at replied
      cases replied
  | ok query =>
      rw [handle_of_decode read] at replied
      cases replied
      exact ⟨query, rfl, rfl⟩

/-! ## Long names -/

/-- The query for a known name of up to 494 bytes is answered, and the reply is 34 bytes
longer than the name. -/
theorem exists_reply_of_known {table : RecordTable} {domain : Text} {address : Ipv4}
    (writable : Name.Writable domain) (nonempty : domain ≠ [])
    (short : (Utf8.encode domain).length ≤ 494) (known : table.lookup domain = some address)
    {buffer : Datagram} (full : buffer.length = maxDatagram) :
    ∃ response,
      (step table buffer (Query.make domain .standard).encode).1.reaction = .reply response ∧
        response.length = (Utf8.encode domain).length + 34 := by
  have answers : table.answerSection (.make domain .standard) =
      RecordTable.encodeAnswer table.ttl address :=
    RecordTable.answerSection_of_lookup rfl rfl known
  refine ⟨clientResponse table domain, step_of_client full table nonempty writable short, ?_⟩
  rw [length_clientResponse table nonempty, answers, RecordTable.length_encodeAnswer]

/-- A name of 494 bytes, the longest that fits a query. -/
def longestName : Text :=
  Text.join '.' (List.replicate 7 (List.replicate 63 'a') ++ [List.replicate 46 'a'])

theorem writable_longestName : Name.Writable longestName := .inr (by decide +kernel)

theorem length_longestName : (Utf8.encode longestName).length = 494 := by decide +kernel

theorem lookup_longestName :
    (RecordTable.make [(longestName, ⟨1, 2, 3, 4⟩)] 60).lookup longestName =
      some ⟨1, 2, 3, 4⟩ := by
  decide +kernel

/-! ## Replies -/

/-- A reply is read whole by a client exactly if it has at most 512 bytes, and it has more
exactly if it answers a question of more than 484 bytes. Then the client reads a message
that announces one answer and holds the question and less than the answer. A table whose
names have at most 478 bytes makes no such reply. -/
theorem reply_read_whole_iff {table : RecordTable} {buffer datagram response : Datagram}
    (full : buffer.length = 512)
    (replied : (step table buffer datagram).1.reaction = .reply response) :
    ∃ query header records,
      Query.decode (datagram.take 512) = .ok query ∧
      table.WellFormed (datagram.take 512) query header records response ∧
      response.length = 12 + query.questionLength + 16 * records.length ∧
      (received response = response ↔ response.length ≤ 512) ∧
      (response.length ≤ 512 ↔ records = [] ∨ query.questionLength ≤ 484) ∧
      (512 < response.length →
        records.length = 1 ∧
        Query.decode (received response) = .ok { query with header := header } ∧
        ((received response).drop (12 + query.questionLength)).length < 16) ∧
      ((∀ entry ∈ table.records, (Utf8.encode entry.1).length ≤ 478) →
        response.length ≤ 512) := by
  rcases exists_query_of_reply full replied with ⟨query, read, equal⟩
  have short : (received datagram).length ≤ maxDatagram := List.length_take_le ..
  refine ⟨query, table.responseHeader query, table.answers query, read, ?_⟩
  rw [equal]
  refine ⟨RecordTable.wellFormed_response read, RecordTable.length_response_eq read,
    received_eq_self_iff, RecordTable.length_response_le_iff read short,
    RecordTable.decode_received_response read short,
    RecordTable.length_response_le_of_names read short⟩

/-- The reply for the longest name announces an answer and lacks a part of it. -/
theorem reply_read_whole_iff_of_longest_name :
    ∃ response query, (step (.make [(longestName, ⟨1, 2, 3, 4⟩)] 60) freshBuffer
        (Query.make longestName .standard).encode).1.reaction = .reply response ∧
      Query.decode (received response) = .ok query ∧ query.header.answers = 1 ∧
      ((received response).drop (12 + query.questionLength)).length < 16 := by
  have full : freshBuffer.length = 512 := List.length_replicate
  rcases exists_reply_of_known writable_longestName (by decide)
    (Nat.le_of_eq length_longestName) lookup_longestName full with ⟨response, replied, length⟩
  rcases reply_read_whole_iff full replied with
    ⟨query, header, records, -, wellFormed, -, -, -, cut, -⟩
  rw [length_longestName] at length
  rcases cut (by omega) with ⟨one, read, rest⟩
  have count := wellFormed.count.symm.trans one
  exact ⟨response, _, replied, read, UInt16.toNat_inj.mp count, rest⟩

/-- The reply for the longest name has 528 bytes, and is not read whole. -/
theorem reply_cut_of_longest_name :
    ∃ response, (step (.make [(longestName, ⟨1, 2, 3, 4⟩)] 60) freshBuffer
        (Query.make longestName .standard).encode).1.reaction = .reply response ∧
      response.length = 528 ∧ received response ≠ response := by
  have full : freshBuffer.length = 512 := List.length_replicate
  rcases exists_reply_of_known writable_longestName (by decide)
    (Nat.le_of_eq length_longestName) lookup_longestName full with ⟨response, replied, length⟩
  rw [length_longestName] at length
  refine ⟨response, replied, length, ?_⟩
  rw [Ne, received_eq_self_iff, length]
  decide

end Server

end StubDns
