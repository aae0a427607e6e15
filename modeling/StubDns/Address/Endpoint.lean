import StubDns.Address.Ipv6

/-! # Addresses of either family and endpoints

An endpoint is an address with a port. The address of an IPv6 endpoint is
written in brackets, so that the port can be told from the last group.
-/

namespace StubDns

inductive Ip
  | v4 (address : Ipv4)
  | v6 (address : Ipv6)
  deriving DecidableEq, Repr

namespace Ip

def render : Ip → Text
  | .v4 address => address.render
  | .v6 address => address.render

/-- Read a text that is an address of either family and nothing else. -/
def read? (text : Text) : Option Ip :=
  match Ipv4.read? text with
  | some address => some (.v4 address)
  | none => (Ipv6.read? text).map .v6

/-- The IPv4 address of an address: itself, or the one that it embeds. -/
def ipv4? : Ip → Option Ipv4
  | .v4 address => some address
  | .v6 address => address.embedded?

/-- The address by which a machine reaches itself. -/
def loopback : Ip := .v4 ⟨127, 0, 0, 1⟩

end Ip

structure Endpoint where
  ip : Ip
  port : UInt16
  deriving DecidableEq, Repr

namespace Endpoint

def render (endpoint : Endpoint) : Text :=
  let port := ':' :: Whole.render endpoint.port.toNat
  match endpoint.ip with
  | .v4 address => address.render ++ port
  | .v6 address => '[' :: address.render ++ ']' :: port

example : render ⟨Ip.loopback, 2053⟩ = "127.0.0.1:2053".toList := by decide +kernel

end Endpoint

end StubDns
