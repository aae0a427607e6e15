import StubDns.Address.Endpoint
import StubDns.Duration
import StubDns.Text.Quoted

/-! # Errors of sockets

What can go wrong between a program and the network: refusals of the machine,
which have a number, and a wait that took too long.
-/

namespace StubDns

inductive SocketError
  /-- A datagram is longer than any may be. -/
  | messageTooLong
  /-- Nothing can be sent to port 0. -/
  | invalidArgument
  /-- No way leads to the address. -/
  | networkUnreachable
  /-- The address is not one of the machine. -/
  | addressNotAvailable
  /-- No response came in time. -/
  | timedOut (peer : Endpoint) (patience : Duration)
  deriving DecidableEq, Repr

namespace SocketError

/-- The kind of an error, in one word. -/
def kind : SocketError → String
  | .messageTooLong => "Uncategorized"
  | .invalidArgument => "InvalidInput"
  | .networkUnreachable => "NetworkUnreachable"
  | .addressNotAvailable => "AddrNotAvailable"
  | .timedOut .. => "TimedOut"

/-- The number and the wording of a refusal of the machine. -/
def refusal? : SocketError → Option (Nat × String)
  | .messageTooLong => some (90, "Message too long")
  | .invalidArgument => some (22, "Invalid argument")
  | .networkUnreachable => some (101, "Network is unreachable")
  | .addressNotAvailable => some (99, "Cannot assign requested address")
  | .timedOut .. => none

def message (error : SocketError) : String :=
  match error with
  | .timedOut peer patience =>
      "no response from " ++ String.ofList peer.render ++ " within "
        ++ String.ofList patience.render
  | _ =>
      match error.refusal? with
      | some (number, wording) => wording ++ s!" (os error {number})"
      | none => error.kind

def details (error : SocketError) : String :=
  match error.refusal? with
  | some (number, wording) =>
      s!"Os \x7b code: {number}, kind: " ++ error.kind ++ ", message: \"" ++ wording ++ "\" \x7d"
  | none =>
      "Custom \x7b kind: " ++ error.kind ++ ", error: "
        ++ String.ofList (Text.quoted error.message.toList) ++ " \x7d"

end SocketError

end StubDns
