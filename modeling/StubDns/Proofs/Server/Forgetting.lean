import StubDns.Proofs.Server.LogTexts
import StubDns.Proofs.Server.Runs

/-! # Runs that forget

The buffer is all that one turn leaves to the next, and of the buffer a server handles only
what the next datagram has just put there. So a run can be cut anywhere and go on with any
other buffer, and it has handled each datagram as a server would that has just started. What
is logged depends on the socket too: a datagram is noted once, unless the reply to it cannot
be sent, which is noted behind it.
-/

namespace StubDns.Server

/-! ## Parts of a run -/

section Runs

variable {table : RecordTable} {buffer other : Datagram}

theorem serve_singleton (full : buffer.length = maxDatagram) (arrival : Arrival) :
    serve table buffer [arrival] = [alone table maxDatagram arrival] := by
  rw [serve_eq_map, full]
  rfl

theorem serve_append (sameLength : other.length = buffer.length) (front back : List Arrival) :
    serve table buffer (front ++ back) = serve table buffer front ++ serve table other back := by
  rw [serve_eq_map, serve_eq_map, serve_eq_map, sameLength, List.map_append]

theorem length_serve (arrivals : List Arrival) :
    (serve table buffer arrivals).length = arrivals.length := by
  rw [serve_eq_map, List.length_map]

theorem getElem?_serve (full : buffer.length = maxDatagram) {arrivals : List Arrival}
    {index : Nat} {arrival : Arrival} (here : arrivals[index]? = some arrival) :
    (serve table buffer arrivals)[index]? = some (alone table maxDatagram arrival) := by
  rw [serve_eq_map, List.getElem?_map, here, full]
  rfl

theorem drop_serve_append_cons (front : List Arrival) (arrival : Arrival) (back : List Arrival) :
    (serve table buffer (front ++ arrival :: back)).drop (front.length + 1) =
      (serve table buffer (front ++ back)).drop front.length := by
  have split : front ++ arrival :: back = (front ++ [arrival]) ++ back := by simp
  have longer : (serve table buffer (front ++ [arrival])).length = front.length + 1 := by
    rw [length_serve, List.length_append]
    rfl
  rw [split, serve_append rfl, ← longer, List.drop_left, serve_append rfl,
    ← length_serve front, List.drop_left]

end Runs

/-! ## What is noted -/

theorem handle_of_error {table : RecordTable} {request : Datagram} {error : DecodeError}
    (read : Query.decode request = .error error) :
    handle table request = ⟨.drop, .dropped request.length error⟩ := by
  rw [handle, read]

section Alone

variable {table : RecordTable} {datagram : Datagram} {peer : String} {refusal : Option String}

theorem alone_of_error {error : DecodeError}
    (read : Query.decode (received datagram) = .error error) :
    alone table maxDatagram (.datagram datagram peer refusal) =
      ⟨some .drop, [⟨"WARN", "dropping malformed query from " ++ peer
        ++ s!", length: {min maxDatagram datagram.length}, err: " ++ error.message⟩]⟩ := by
  change (handle table (received datagram)).turn peer refusal = _
  rw [handle_of_error read, received, List.length_take]
  rfl

theorem alone_of_query {query : Query} (read : Query.decode (received datagram) = .ok query) :
    alone table maxDatagram (.datagram datagram peer refusal) =
      ⟨some (.reply (table.response (received datagram) query)),
        ⟨"INFO", (LogRecord.asked query.header.id query.domain query.qtype).message peer⟩ ::
          (refusal.map fun reason => (LogRecord.unsent reason).line peer).toList⟩ := by
  change (handle table (received datagram)).turn peer refusal = _
  rw [handle_of_decode read]
  cases refusal <;> rfl

/-- A turn is noted once, unless the socket refuses a reply. -/
theorem length_log_alone {arrival : Arrival}
    (sends : ∀ datagram peer reason, arrival ≠ .datagram datagram peer (some reason)) :
    (alone table maxDatagram arrival).log.length = 1 := by
  rcases arrival with ⟨datagram, peer, _ | reason⟩ | reason
  · cases read : Query.decode (received datagram) with
    | error error => rw [alone_of_error read, List.length_singleton]
    | ok query =>
        rw [alone_of_query read]
        rfl
  · exact absurd rfl (sends datagram peer reason)
  · rfl

end Alone

/-- Whatever is left in the buffer, a run handles each datagram as a server that has just
started handles this datagram alone. It notes each, with a warning if it is dropped, and with
what it asks if there is a reply; a reply that cannot be sent is noted behind that, and so is a
datagram that cannot be received. Where all replies can be sent, each turn is noted once. No
turn changes what becomes of the later ones. -/
theorem serve_forgets (table : RecordTable) {buffer : Datagram} (full : buffer.length = 512)
    (arrivals : List Arrival) :
    (serve table buffer arrivals).length = arrivals.length ∧
    (∀ (index : Nat) datagram peer refusal,
      arrivals[index]? = some (.datagram datagram peer refusal) →
      ∃ turn, (serve table buffer arrivals)[index]? = some turn ∧
        serve table freshBuffer [.datagram datagram peer refusal] = [turn] ∧
        ((∃ error, Query.decode (datagram.take 512) = .error error ∧
            turn.reaction = some .drop ∧
            turn.log = [⟨"WARN", "dropping malformed query from " ++ peer
              ++ s!", length: {min 512 datagram.length}, err: " ++ error.message⟩]) ∨
          ∃ query response text, Query.decode (datagram.take 512) = .ok query ∧
            table.respond? (datagram.take 512) query = some response ∧
            turn.reaction = some (.reply response) ∧
            IsQueryText peer query text ∧
            (refusal = none → turn.log = [⟨"INFO", text⟩]) ∧
            ∀ reason, refusal = some reason →
              turn.log = [⟨"INFO", text⟩, ⟨"WARN", "udp send to " ++ peer ++ " err: " ++ reason⟩])) ∧
    (∀ (index : Nat) reason, arrivals[index]? = some (.failure reason) →
      (serve table buffer arrivals)[index]? = some ⟨none, [⟨"WARN", "udp recv err: " ++ reason⟩]⟩) ∧
    ((∀ datagram peer reason, .datagram datagram peer (some reason) ∉ arrivals) →
      ((serve table buffer arrivals).flatMap Turn.log).length = arrivals.length) ∧
    ∀ front other back, arrivals = front ++ other :: back →
      (serve table buffer arrivals).drop (front.length + 1) =
        (serve table buffer (front ++ back)).drop front.length := by
  refine ⟨length_serve arrivals, ?_, ?_, ?_, ?_⟩
  · intro index datagram peer refusal here
    refine ⟨_, getElem?_serve full here, serve_singleton List.length_replicate _, ?_⟩
    cases read : Query.decode (received datagram) with
    | error error =>
        rw [alone_of_error read]
        exact .inl ⟨error, read, rfl, rfl⟩
    | ok query =>
        rw [alone_of_query read]
        refine .inr ⟨query, _, _, read, RecordTable.respond?_of_decode read, rfl,
          isQueryText_message peer query, ?_, ?_⟩
        · intro sends
          rw [sends]
          rfl
        · intro reason refused
          rw [refused]
          rfl
  · intro index reason here
    exact getElem?_serve full here
  · intro sends
    rw [serve_eq_map, full, List.length_flatMap, List.map_map]
    have once : ∀ arrival ∈ arrivals,
        ((fun turn : Turn => turn.log.length) ∘ alone table 512) arrival = 1 := by
      intro arrival member
      apply length_log_alone
      intro datagram peer reason equal
      exact sends datagram peer reason (equal ▸ member)
    rw [List.map_congr_left once, List.map_const', List.sum_replicate_nat, Nat.mul_one]
  · intro front other back split
    rw [split, drop_serve_append_cons]

/-! ### After an earlier query -/

def earlierQuery : Datagram := (Query.make "z.cn".toList .standard).encode

def cutThenWhole : List Arrival :=
  [.datagram (earlierQuery.take 21) "127.0.0.1:53" none,
    .datagram earlierQuery "127.0.0.1:0" (some "Invalid argument (os error 22)")]

/-- The rest of an earlier query in the buffer does not complete the same query when it is
cut, and this does not harm the next one. That nothing can be sent to its peer is noted too. -/
theorem serve_forgets_earlier_query :
    (fill freshBuffer earlierQuery).length = 512 ∧
      (∃ turn, (serve (.make [] 60) (fill freshBuffer earlierQuery) cutThenWhole)[0]? = some turn ∧
        turn.reaction = some .drop ∧ turn.log.length = 1) ∧
      (∃ turn, (serve (.make [] 60) (fill freshBuffer earlierQuery) cutThenWhole)[1]? = some turn ∧
        turn.log.map (·.level) = ["INFO", "WARN"]) ∧
      (serve (.make [] 60) (fill freshBuffer earlierQuery) cutThenWhole).drop 1 =
        serve (.make [] 60) (fill freshBuffer earlierQuery) (cutThenWhole.drop 1) := by
  have full : (fill freshBuffer earlierQuery).length = 512 := by
    rw [length_fill]
    exact List.length_replicate
  have read := Query.decode_encode_make (.inr (by decide) : Name.Writable "z.cn".toList) .standard
  have truncated := Query.decode_take_of_lt read (by decide : 21 < _)
  have short : (earlierQuery.take 21).take 512 = earlierQuery.take 21 := by decide
  have whole : earlierQuery.take 512 = earlierQuery := by decide
  rcases serve_forgets (.make [] 60) full cutThenWhole with ⟨-, each, -, -, later⟩
  have rest := later [] _ _ rfl
  simp only [List.length_nil, Nat.zero_add, List.nil_append, List.drop_zero] at rest
  refine ⟨full, ?_, ?_, rest⟩
  · rcases each 0 _ _ _ rfl with ⟨turn, here, _, dropped | replied⟩
    · rcases dropped with ⟨_, _, drop, log⟩
      exact ⟨turn, here, drop, congrArg List.length log⟩
    · rcases replied with ⟨_, _, _, readable, _⟩
      rw [short, earlierQuery, truncated] at readable
      cases readable
  · rcases each 1 _ _ _ rfl with ⟨turn, here, _, dropped | replied⟩
    · rcases dropped with ⟨_, unreadable, _⟩
      rw [whole, earlierQuery, read] at unreadable
      cases unreadable
    · rcases replied with ⟨_, _, _, _, _, _, _, _, refused⟩
      exact ⟨turn, here, congrArg (List.map LogLine.level) (refused _ rfl)⟩

end StubDns.Server
