import StubDns.Proofs.Dns.QueryRoundTrip
import StubDns.Proofs.Server.Steps

/-! # Runs of a server

There is no response to a request that is too short for the question of the query, and
a query that was read elsewhere can have such a question. A request holds every
question that is read from it, so that no turn ends the server: a run takes one turn after
the other, each as if it were the first, whatever the socket refuses.
-/

namespace StubDns

/-! ## Requests that are too short -/

namespace RecordTable

variable {table : RecordTable} {request other : List UInt8} {query : Query}

theorem respond?_eq_none_iff :
    table.respond? request query = none ↔
      request.length < Header.size + query.questionLength := by
  constructor
  · intro missing
    apply Nat.lt_of_not_le
    intro enough
    rw [respond?_eq_some enough] at missing
    cases missing
  · intro short
    rw [respond?, if_pos short]

/-- A request is too short for a query that was read from other bytes just if as many of
those bytes are too few to read it. -/
theorem respond?_eq_none_iff_of_decode (read : Query.decode other = .ok query) :
    table.respond? request query = none ↔
      Query.decode (other.take request.length) = .error .truncated := by
  rw [respond?_eq_none_iff]
  constructor
  · intro short
    exact Query.decode_take_of_lt read short
  · intro truncated
    apply Nat.lt_of_not_le
    intro enough
    rw [Query.decode_take_of_le read enough] at truncated
    cases truncated

theorem respond?_of_decode_prefix {start : List UInt8} (inside : start <+: request)
    (read : Query.decode start = .ok query) :
    table.respond? request query = some (table.response request query) := by
  apply respond?_eq_some
  exact Nat.le_trans (Query.length_le_of_decode read) inside.length_le

end RecordTable

namespace Server

/-! ## Turns and runs -/

theorem handle_reaction_ne_crash (table : RecordTable) (request : Datagram) :
    (handle table request).reaction ≠ .crash := by
  cases read : Query.decode request with
  | error error =>
      simp only [handle, read]
      exact Reaction.noConfusion
  | ok query =>
      rw [handle_of_decode read]
      exact Reaction.noConfusion

/-- A turn by itself: of the buffer it needs the size only. -/
def alone (table : RecordTable) (size : Nat) : Arrival → Turn
  | .failure reason => ⟨none, [unreceived reason]⟩
  | .datagram bytes peer refusal => (handle table (bytes.take size)).turn peer refusal

theorem takeTurn_fst (table : RecordTable) (buffer : Datagram) (arrival : Arrival) :
    (takeTurn table buffer arrival).1 = alone table buffer.length arrival := by
  cases arrival with
  | failure reason => rfl
  | datagram bytes peer refusal =>
      rw [takeTurn, step_eq_take]
      rfl

theorem length_takeTurn_snd (table : RecordTable) (buffer : Datagram) (arrival : Arrival) :
    (takeTurn table buffer arrival).2.length = buffer.length := by
  cases arrival with
  | failure reason => rfl
  | datagram bytes peer refusal => exact length_fill buffer bytes

theorem alone_reaction_ne_crash (table : RecordTable) (size : Nat) (arrival : Arrival) :
    (alone table size arrival).reaction ≠ some .crash := by
  cases arrival with
  | failure reason =>
      intro crashed
      cases crashed
  | datagram bytes peer refusal =>
      intro crashed
      exact handle_reaction_ne_crash table (bytes.take size) (Option.some.inj crashed)

/-- No turn ends a run. -/
theorem serve_cons (table : RecordTable) (buffer : Datagram) (arrival : Arrival)
    (rest : List Arrival) :
    serve table buffer (arrival :: rest) =
      alone table buffer.length arrival :: serve table (takeTurn table buffer arrival).2 rest := by
  have lives := alone_reaction_ne_crash table buffer.length arrival
  rw [← takeTurn_fst] at lives ⊢
  rw [serve]
  exact if_neg lives

/-- A run takes every turn by itself. -/
theorem serve_eq_map (table : RecordTable) (buffer : Datagram) (arrivals : List Arrival) :
    serve table buffer arrivals = arrivals.map (alone table buffer.length) := by
  induction arrivals generalizing buffer with
  | nil => rfl
  | cons arrival rest induction =>
      rw [serve_cons, induction, length_takeTurn_snd, List.map_cons]

/-- There is no response exactly to requests that are too short: shorter than a query that
was made, or than the bytes that a query was read from. A query is never too long for the
request that it was read from, and so a run takes all its turns and never crashes, whatever
arrives and whatever fails. -/
theorem serve_never_crashes (table : RecordTable) :
    (∀ request query, table.respond? request query = none ↔
      request.length < 12 + query.questionLength) ∧
    (∀ request domain options, table.respond? request (Query.make domain options) = none ↔
      request.length < (Query.make domain options).encode.length) ∧
    (∀ request other query, Query.decode other = .ok query →
      (table.respond? request query = none ↔
        Query.decode (other.take request.length) = .error .truncated)) ∧
    (∀ request start query, start <+: request → Query.decode start = .ok query →
      ∃ response, table.respond? request query = some response) ∧
    ∀ buffer arrivals, (serve table buffer arrivals).length = arrivals.length ∧
      ∀ turn ∈ serve table buffer arrivals, turn.reaction ≠ some .crash := by
  refine ⟨fun _ _ => RecordTable.respond?_eq_none_iff, ?_,
    fun _ _ _ read => RecordTable.respond?_eq_none_iff_of_decode read,
    fun _ _ _ inside read => ⟨_, RecordTable.respond?_of_decode_prefix inside read⟩, ?_⟩
  · intro request domain options
    rw [Query.length_encode_make]
    exact RecordTable.respond?_eq_none_iff
  · intro buffer arrivals
    rw [serve_eq_map]
    constructor
    · exact List.length_map _
    · intro turn member
      rcases List.mem_map.mp member with ⟨arrival, _, equal⟩
      rw [← equal]
      exact alone_reaction_ne_crash table buffer.length arrival

/-- A question of nine bytes is no part of a request with eight bytes behind its header. A
server that receives this request and a whole one survives both, also if its socket fails
between them and its reply cannot be sent. -/
theorem serve_never_crashes_on_cut_question :
    (RecordTable.make [] 60).respond? ((Query.make "a.b".toList .standard).encode.take 20)
        (.make "a.b".toList .standard) = none ∧
      ∀ turn ∈ serve (.make [] 60) freshBuffer
        [.datagram ((Query.make "a.b".toList .standard).encode.take 20) "127.0.0.1:53" none,
          .failure "Connection refused (os error 111)",
          .datagram (Query.make "a.b".toList .standard).encode "127.0.0.1:0"
            (some "Invalid argument (os error 22)")], turn.reaction ≠ some .crash := by
  rcases serve_never_crashes (.make [] 60) with ⟨_, made, _, _, runs⟩
  exact ⟨(made _ _ _).mpr (by decide), (runs freshBuffer _).2⟩

end Server

end StubDns
