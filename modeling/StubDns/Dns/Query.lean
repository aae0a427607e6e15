import StubDns.Dns.Header
import StubDns.Dns.Name

/-! # Queries

A query is a header and one question: a domain, a record type and a class. A
query made here writes its own header; a query that was read keeps the header
as it came, with all counts, and the number of bytes that its question took.
Only the first question is read and what follows it is ignored.
-/

namespace StubDns

structure QueryOptions where
  id : UInt16
  flags : UInt16
  qtype : UInt16
  qclass : UInt16
  deriving DecidableEq, Repr

namespace QueryOptions

/-- The record type of IPv4 addresses. -/
def typeA : UInt16 := 1

/-- The class of the Internet. -/
def classIn : UInt16 := 1

/-- The flag by which a client asks the server to find the answer elsewhere. -/
def recursionDesired : UInt16 := 0x0100

/-- A question for an IPv4 address under a fixed identifier. -/
def standard : QueryOptions := ⟨0x0A0B, recursionDesired, typeA, classIn⟩

end QueryOptions

structure Query where
  header : Header
  domain : Text
  qtype : UInt16
  qclass : UInt16
  /-- The number of bytes of the question on the wire. -/
  questionLength : Nat
  deriving DecidableEq, Repr

namespace Query

def encodeQuestion (domain : Text) (qtype qclass : UInt16) : List UInt8 :=
  Name.encode domain ++ wordBytes qtype ++ wordBytes qclass

def make (domain : Text) (options : QueryOptions) : Query where
  header := ⟨options.id, options.flags, 1, 0, 0, 0⟩
  domain := domain
  qtype := options.qtype
  qclass := options.qclass
  questionLength := (encodeQuestion domain options.qtype options.qclass).length

/-- The bytes of a query. The question is written again from its domain. -/
def encode (query : Query) : List UInt8 :=
  query.header.encode ++ encodeQuestion query.domain query.qtype query.qclass

example : (make "a.b".toList .standard).encode =
    [0x0A, 0x0B, 1, 0, 0, 1, 0, 0, 0, 0, 0, 0, 1, 0x61, 1, 0x62, 0, 0, 1, 0, 1] := by decide

/-- Read the query that bytes start with. -/
def decode (bytes : List UInt8) : Except DecodeError Query :=
  match Header.read? bytes with
  | none => .error .truncated
  | some (header, body) =>
      if header.questions = 0 then
        .error .noQuestion
      else
        match Name.readLabels body with
        | .error error => .error error
        | .ok (labels, typeHigh :: typeLow :: classHigh :: classLow :: rest) =>
            .ok {
              header := header
              domain := Name.text labels
              qtype := wordOf typeHigh typeLow
              qclass := wordOf classHigh classLow
              questionLength := body.length - rest.length }
        | .ok _ => .error .truncated

end Query

end StubDns
