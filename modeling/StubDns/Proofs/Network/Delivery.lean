import StubDns.Network.Exchange

/-! # Delivery

A message that fits into a datagram, to a port that exists, is sent as it is.
The first reply ends the wait, unless there is no wait at all, and is read whole
if it is not longer than what is read of a datagram.
-/

namespace StubDns

theorem Duration.ofMilliseconds_ne_zero {count : Nat} (positive : count ≠ 0) :
    Duration.ofMilliseconds count ≠ ⟨0, 0⟩ := by
  intro equal
  simp only [Duration.ofMilliseconds, Duration.mk.injEq] at equal
  omega

theorem received_eq_self {datagram : Datagram} (short : datagram.length ≤ maxDatagram) :
    received datagram = datagram :=
  List.take_of_length_le short

namespace Message

theorem refusal?_eq_none {message : Message} (port : message.server.port ≠ 0)
    (fits : message.datagram.length ≤ payloadLimit) : message.refusal? = none := by
  rw [refusal?, if_neg, if_neg port]
  intro refused
  have written : message.datagram.length ≤ lengthFieldLimit := Nat.le_trans fits (by decide)
  exact absurd refused.2 (Nat.not_lt.mpr written)

theorem send_of_replies {network : Network} {message : Message} {replies : List Datagram}
    (port : message.server.port ≠ 0) (fits : message.datagram.length ≤ payloadLimit)
    (replied : network.replies message.server message.datagram = .ok replies) :
    message.send network = .ok replies := by
  rw [send, refusal?_eq_none port fits]
  simp only [replied, if_neg (Nat.not_lt.mpr fits)]

/-- What can be sent is sent as it is. -/
theorem sent_of_replies {network : Network} {message : Message} {replies : List Datagram}
    (port : message.server.port ≠ 0) (fits : message.datagram.length ≤ payloadLimit)
    (replied : network.replies message.server message.datagram = .ok replies) :
    message.sent network = [(message.server, message.datagram)] := by
  rw [sent, send_of_replies port fits replied]

theorem await_cons {message : Message} (patient : message.patience ≠ some ⟨0, 0⟩)
    (first : Datagram) (others : List Datagram) :
    message.await (first :: others) = .response (received first) := by
  unfold await
  split
  · next impatient => exact absurd impatient patient
  · next equal _ =>
      cases equal
      rfl
  · contradiction
  · contradiction

theorem exchange_of_replies {network : Network} {message : Message} {first : Datagram}
    {others : List Datagram} (port : message.server.port ≠ 0)
    (patient : message.patience ≠ some ⟨0, 0⟩)
    (short : message.datagram.length ≤ maxDatagram)
    (replied : network.replies message.server message.datagram = .ok (first :: others)) :
    message.exchange network = .response (received first) := by
  have fits : message.datagram.length ≤ payloadLimit := Nat.le_trans short (by decide)
  rw [exchange, send_of_replies port fits replied]
  exact await_cons patient first others

end Message

end StubDns
