import StubDns.Proofs.Server.ReplySizes

/-! # Replies to replies

A reply is a message that asks what it answers, and a server answers it like any other. What
it sends is the same reply: the flags that it sets are apart from the one flag that it
copies, and the question is copied once more. This holds for a reply that is too long to be
read whole, because its question is not. So two servers that send their replies to each
other never stop.
-/

namespace StubDns

/-! ## Flags -/

theorem or_and_distrib_word (left right mask : UInt16) :
    (left ||| right) &&& mask = left &&& mask ||| right &&& mask := by
  apply UInt16.toBitVec_inj.mp
  simp only [UInt16.toBitVec_and, UInt16.toBitVec_or, BitVec.and_or_distrib_right]

namespace RecordTable

variable {table : RecordTable} {request : List UInt8} {query : Query}

/-- The flag that is copied into a response is none of those that are set there. -/
theorem responseHeader_recursionDesired (table : RecordTable) (query : Query) :
    (table.responseHeader query).flags &&& QueryOptions.recursionDesired =
      query.header.flags &&& QueryOptions.recursionDesired := by
  have code : (table.responseCode query).code &&& QueryOptions.recursionDesired = 0 := by
    cases table.responseCode query <;> decide
  have response : responseFlag &&& QueryOptions.recursionDesired = 0 := by decide
  have recursion : recursionAvailable &&& QueryOptions.recursionDesired = 0 := by decide
  simp only [responseHeader, or_and_distrib_word, code, response, recursion, UInt16.and_assoc,
    UInt16.and_self, UInt16.zero_or, UInt16.or_zero]

theorem response_response (read : Query.decode request = .ok query) :
    table.response (table.response request query)
        { query with header := table.responseHeader query } =
      table.response request query := by
  apply response_congr table read (decode_response read)
  · rfl
  · exact responseHeader_recursionDesired table query
  · change query.questionBytes (table.response request query) = query.questionBytes request
    exact questionBytes_response (Query.length_le_of_decode read)

end RecordTable

namespace Server

/-! ## One reply -/

section Replies

variable {table : RecordTable} {buffer other far datagram response : Datagram}

theorem response_received_response (table : RecordTable) {request : Datagram} {query : Query}
    (read : Query.decode request = .ok query) (short : request.length ≤ maxDatagram) :
    table.response (received (table.response request query))
        { query with header := table.responseHeader query } =
      table.response request query := by
  have again := decode_received_of_response table read short
  have fits := Nat.le_trans (Query.length_le_of_decode again) (List.length_take_le ..)
  rw [response_received table fits, RecordTable.response_response read]

/-- A reply is handled as what it replies to, record of the log included. -/
theorem step_of_reply (full : buffer.length = maxDatagram)
    (otherFull : other.length = maxDatagram)
    (replied : (step table buffer datagram).1.reaction = .reply response) :
    (step table other response).1 = (step table buffer datagram).1 := by
  rcases exists_query_of_reply full replied with ⟨query, read, equal⟩
  have short : (received datagram).length ≤ maxDatagram := List.length_take_le ..
  rw [step_eq otherFull, step_eq full, equal, handle_of_decode read,
    handle_of_decode (decode_received_of_response table read short),
    response_received_response table read short]
  rfl

/-! ## Two servers -/

/-- What two servers with one table do in turn if each sends its replies to the other and a
datagram reaches the near one. It ends where there is no reply. -/
def volley (table : RecordTable) : Nat → Datagram → Datagram → Datagram → List Handling
  | 0, _, _, _ => []
  | turns + 1, near, far, datagram =>
      let (handling, filled) := step table near datagram
      match handling.reaction with
      | .reply response => handling :: volley table turns far filled response
      | .drop | .crash => [handling]

theorem volley_succ_of_reply (turns : Nat) (far : Datagram)
    (replied : (step table buffer datagram).1.reaction = .reply response) :
    volley table (turns + 1) buffer far datagram =
      (step table buffer datagram).1 ::
        volley table turns far (step table buffer datagram).2 response := by
  rw [volley]
  simp only [replied]

theorem volley_of_reply (full : buffer.length = maxDatagram) (farFull : far.length = maxDatagram)
    (replied : (step table buffer datagram).1.reaction = .reply response) (turns : Nat) :
    volley table turns buffer far datagram =
      List.replicate turns (step table buffer datagram).1 := by
  induction turns generalizing buffer far datagram with
  | zero => rfl
  | succ turns induction =>
      -- The servers change roles: the far one has the reply, and the near one a filled buffer.
      have same := step_of_reply full farFull replied
      have filled : (step table buffer datagram).2.length = maxDatagram := by
        rw [step_eq full, length_fill, full]
      have rest := induction farFull filled (by rw [same, replied])
      rw [volley_succ_of_reply turns far replied, rest, same, List.replicate_succ]

end Replies

/-- A server that receives a reply, its own or that of a server with the same table, reads the
query that was answered, under the header of the response, and sends the same reply, whatever
its buffer holds and however long the reply is. Two servers that send their replies to each
other send this one without end. -/
theorem reply_to_reply {table : RecordTable} {buffer datagram response : Datagram}
    (full : buffer.length = 512)
    (replied : (step table buffer datagram).1.reaction = .reply response) :
    ∃ query, Query.decode (datagram.take 512) = .ok query ∧
      Query.decode (response.take 512) =
        .ok { query with header := table.responseHeader query } ∧
      table.respond? (response.take 512) { query with header := table.responseHeader query } =
        some response ∧
      (∀ other : Datagram, other.length = 512 →
        (step table other response).1 =
          ⟨.reply response, .asked query.header.id query.domain query.qtype⟩) ∧
      ∀ far : Datagram, far.length = 512 → ∀ turns,
        volley table turns buffer far datagram =
          List.replicate turns
            ⟨.reply response, .asked query.header.id query.domain query.qtype⟩ := by
  rcases exists_query_of_reply full replied with ⟨query, read, equal⟩
  have short : (received datagram).length ≤ maxDatagram := List.length_take_le ..
  have again := decode_received_of_response table read short
  have made : table.respond? _ _ = some _ := RecordTable.respond?_of_decode again
  rw [response_received_response table read short, ← equal] at made
  have first : (step table buffer datagram).1 =
      ⟨.reply response, .asked query.header.id query.domain query.qtype⟩ := by
    rw [step_eq full, equal]
    exact handle_of_decode read
  rw [← equal] at again
  refine ⟨query, read, again, made, ?_, ?_⟩
  · intro other otherFull
    exact (step_of_reply full otherFull replied).trans first
  · intro far farFull turns
    rw [volley_of_reply full farFull replied, first]

/-- The reply for the longest name is cut inside its answer, and is sent back and forth. -/
theorem reply_to_reply_of_longest_name :
    ∃ response record, response.length = 528 ∧ received response ≠ response ∧ ∀ turns,
      volley (.make [(longestName, ⟨1, 2, 3, 4⟩)] 60) turns freshBuffer freshBuffer
          (Query.make longestName .standard).encode =
        List.replicate turns ⟨.reply response, record⟩ := by
  have full : freshBuffer.length = 512 := List.length_replicate
  rcases exists_reply_of_known writable_longestName (by decide)
    (Nat.le_of_eq length_longestName) lookup_longestName full with ⟨response, replied, length⟩
  rcases reply_to_reply full replied with ⟨query, -, -, -, -, exchanged⟩
  rw [length_longestName] at length
  refine ⟨response, _, length, ?_, exchanged freshBuffer full⟩
  rw [Ne, received_eq_self_iff, length]
  decide

end Server

end StubDns
