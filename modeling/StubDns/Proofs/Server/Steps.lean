import StubDns.Proofs.Dns.Responses
import StubDns.Server

/-! # Steps of a server

All that a step takes from its buffer is its length: what the server handles is
the datagram itself, cut to the buffer. The buffer keeps its length, so that this
holds for every step of a run.
-/

namespace StubDns.Server

/-! ## Receiving -/

theorem length_fill (buffer datagram : Datagram) :
    (fill buffer datagram).length = buffer.length := by
  rw [fill, List.length_append, List.length_take, List.length_drop]
  omega

theorem take_fill (buffer datagram : Datagram) :
    (fill buffer datagram).take (min datagram.length buffer.length) =
      datagram.take buffer.length := by
  have front : (datagram.take buffer.length).length = min datagram.length buffer.length := by
    rw [List.length_take, Nat.min_comm]
  rw [fill, ← front, List.take_left]

/-- A step handles the datagram as far as it fits the buffer, whatever the buffer holds. -/
theorem step_eq_take (table : RecordTable) (buffer datagram : Datagram) :
    step table buffer datagram =
      (handle table (datagram.take buffer.length), fill buffer datagram) := by
  rw [step, take_fill]

theorem step_eq {table : RecordTable} {buffer : Datagram} (full : buffer.length = maxDatagram)
    (datagram : Datagram) :
    step table buffer datagram = (handle table (received datagram), fill buffer datagram) := by
  rw [step_eq_take, full]
  rfl

/-! ## Handling -/

theorem handle_of_decode {table : RecordTable} {request : Datagram} {query : Query}
    (read : Query.decode request = .ok query) :
    handle table request =
      ⟨.reply (table.response request query), .asked query.header.id query.domain query.qtype⟩ := by
  rw [handle, read]
  simp only [answer, RecordTable.respond?_of_decode read]

end StubDns.Server
