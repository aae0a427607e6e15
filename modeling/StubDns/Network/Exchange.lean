import StubDns.Network.Socket

/-! # Exchanging datagrams

One datagram goes to a server, and the first datagram that comes back is the
response. What the network does is part of the input: which addresses a socket
may listen on, and which datagrams come back for one that is sent.
-/

namespace StubDns

/-- The bytes of one datagram. -/
abbrev Datagram := List UInt8

/-- What a machine and its network do. -/
structure Network where
  /-- Why no socket can listen on an address, if none can. -/
  listening : Endpoint → Except SocketError Unit
  /-- The datagrams that come back, in order, for a datagram that is sent to an
  endpoint, or why it cannot be sent there. -/
  replies : Endpoint → Datagram → Except SocketError (List Datagram)

namespace Network

/-- A machine without any connection, not even to itself. Its sockets may listen
on any IPv4 address, also on one that an IPv6 address embeds. Of other IPv6
addresses it has only the unspecified one and groups, and none that needs a
zone.

No way leads anywhere. What goes to the unspecified IPv4 address is sent and
lost, and for other IPv6 addresses there is no address to send from. -/
def isolated : Network where
  listening endpoint :=
    match endpoint.ip with
    | .v4 _ => .ok ()
    | .v6 address =>
        if address.isUnspecified || address.embedded?.isSome then .ok ()
        else if address.needsZone then .error .invalidArgument
        else if address.isMulticast then .ok ()
        else .error .addressNotAvailable
  replies endpoint _ :=
    match endpoint.ip.ipv4? with
    | some address => if address.isUnspecified then .ok [] else .error .networkUnreachable
    | none => .error .addressNotAvailable

/-- A network in which one endpoint answers. -/
def withServer (server : Endpoint) (answer : Datagram → List Datagram) : Network where
  listening _ := .ok ()
  replies endpoint datagram :=
    if endpoint = server then .ok (answer datagram) else .error .networkUnreachable

end Network

/-! ## Limits -/

/-- The number of bytes that are read of a datagram. -/
def maxDatagram : Nat := 512

/-- What is read of a datagram. -/
def received (datagram : Datagram) : Datagram := datagram.take maxDatagram

/-- The largest length that can be written into an IPv4 datagram. -/
def lengthFieldLimit : Nat := 65535

/-- The largest number of bytes that fit in a datagram besides its headers. -/
def payloadLimit : Nat := 65507

/-! ## One exchange -/

inductive Outcome
  | response (datagram : Datagram)
  | failed (error : SocketError)
  /-- No response comes, and the wait has no end. -/
  | waiting
  deriving DecidableEq, Repr

/-- What a client wants to send, where to, and how long it waits. -/
structure Message where
  server : Endpoint
  datagram : Datagram
  patience : Option Duration
  deriving DecidableEq, Repr

namespace Message

/-- The end of the wait for a response when `replies` come back. A wait without
any length ends before they do. -/
def await (message : Message) (replies : List Datagram) : Outcome :=
  match message.patience, replies with
  | some ⟨0, 0⟩, _ => .failed (.timedOut message.server ⟨0, 0⟩)
  | _, first :: _ => .response (received first)
  | some patience, [] => .failed (.timedOut message.server patience)
  | none, [] => .waiting

/-- Why a message cannot be sent whatever the network. -/
def refusal? (message : Message) : Option SocketError :=
  if message.server.ip.ipv4?.isSome ∧ lengthFieldLimit < message.datagram.length then
    some .messageTooLong
  else if message.server.port = 0 then some .invalidArgument
  else none

/-- The replies to a message, or why it is not sent. -/
def send (network : Network) (message : Message) : Except SocketError (List Datagram) :=
  match message.refusal? with
  | some error => .error error
  | none =>
      match network.replies message.server message.datagram with
      | .error error => .error error
      | .ok replies =>
          if payloadLimit < message.datagram.length then .error .messageTooLong else .ok replies

/-- The datagrams that a message puts on the network. -/
def sent (network : Network) (message : Message) : List (Endpoint × Datagram) :=
  match message.send network with
  | .error _ => []
  | .ok _ => [(message.server, message.datagram)]

def exchange (network : Network) (message : Message) : Outcome :=
  match message.send network with
  | .error error => .failed error
  | .ok replies => message.await replies

end Message

end StubDns
