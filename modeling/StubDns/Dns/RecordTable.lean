import StubDns.Address.Ipv4
import StubDns.Dns.Query
import StubDns.Text.AsciiCase

/-! # Record tables

The addresses that a server knows, by domain, and the responses made from
them. Domains are kept with small ASCII letters and looked up so, which makes
the case of these letters irrelevant. A response repeats the question byte for
byte and points back at its name.
-/

namespace StubDns

/-! ## Addresses by name -/

/-- An association of texts with addresses in the order of their first
mention. -/
abbrev AddressBook := List (Text × Ipv4)

namespace AddressBook

/-- Give a name an address. A name that is there keeps its place. -/
def insert (name : Text) (address : Ipv4) : AddressBook → AddressBook
  | [] => [(name, address)]
  | entry :: rest =>
      if entry.1 = name then (name, address) :: rest else entry :: insert name address rest

def find? (name : Text) : AddressBook → Option Ipv4
  | [] => none
  | entry :: rest => if entry.1 = name then some entry.2 else find? name rest

/-- Giving a name an address changes the address of that name and of no other. -/
theorem find?_insert (name other : Text) (address : Ipv4) (book : AddressBook) :
    (book.insert name address).find? other =
      if name = other then some address else book.find? other := by
  induction book with
  | nil => rfl
  | cons entry rest induction =>
      rw [insert]
      split
      · next present => by_cases equal : name = other <;> simp [find?, present, equal]
      · next absent =>
          by_cases first : entry.1 = other
          · simp [find?, first, show name ≠ other from fun equal => absent (first.trans equal.symm)]
          · simp [find?, first, induction]

/-- The book of a list of entries. The last address of a name counts. -/
def ofList (entries : List (Text × Ipv4)) : AddressBook :=
  entries.foldl (fun book entry => book.insert entry.1 entry.2) []

end AddressBook

/-- The addresses that a server answers with, and how long an answer may be
kept by others, in seconds. -/
structure RecordTable where
  records : AddressBook
  ttl : UInt32
  deriving DecidableEq, Repr

namespace RecordTable

/-- The table of named addresses. Of names that differ only in the case of ASCII
letters the last one counts. -/
def make (records : AddressBook) (ttl : UInt32) : RecordTable where
  records := AddressBook.ofList (records.map fun entry => (Text.foldAscii entry.1, entry.2))
  ttl := ttl

def size (table : RecordTable) : Nat := table.records.length

def lookup (table : RecordTable) (domain : Text) : Option Ipv4 :=
  table.records.find? (Text.foldAscii domain)

example : (make [("Z.cn".toList, ⟨1, 2, 3, 4⟩)] 60).lookup "z.CN".toList = some ⟨1, 2, 3, 4⟩ := by
  decide

/-! ## Responses -/

/-- The message is a response. -/
def responseFlag : UInt16 := 0x8000

/-- The server would find answers elsewhere. -/
def recursionAvailable : UInt16 := 0x0080

inductive ResponseCode
  | noError
  | noSuchName
  deriving DecidableEq, Repr

def ResponseCode.code : ResponseCode → UInt16
  | .noError => 0
  | .noSuchName => 3

/-- A name that is found at the start of the question: two high bits and the
position behind the header. -/
def namePointer : UInt16 := 0xC000 ||| UInt16.ofNat Header.size

/-- The record that gives the queried name an address. -/
def encodeAnswer (ttl : UInt32) (address : Ipv4) : List UInt8 :=
  wordBytes namePointer ++ wordBytes QueryOptions.typeA ++ wordBytes QueryOptions.classIn
    ++ doubleWordBytes ttl ++ wordBytes 4 ++ address.octets

@[simp] theorem length_encodeAnswer (ttl : UInt32) (address : Ipv4) :
    (encodeAnswer ttl address).length = 16 := rfl

/-- The address to answer a query with: there is one for its domain, and it is
asked for. -/
def answer? (table : RecordTable) (query : Query) : Option Ipv4 :=
  (table.lookup query.domain).filter fun _ =>
    query.qtype = QueryOptions.typeA && query.qclass = QueryOptions.classIn

/-- Whether the domain of a query is known, of whatever type the question is. -/
def responseCode (table : RecordTable) (query : Query) : ResponseCode :=
  if (table.lookup query.domain).isSome then .noError else .noSuchName

def responseHeader (table : RecordTable) (query : Query) : Header where
  id := query.header.id
  flags := responseFlag ||| (query.header.flags &&& QueryOptions.recursionDesired)
    ||| recursionAvailable ||| (table.responseCode query).code
  questions := 1
  answers := if (table.answer? query).isSome then 1 else 0
  authorities := 0
  additionals := 0

/-- The response to a query that came as `request`. The question is copied from
the request, which must be long enough to hold it. -/
def respond? (table : RecordTable) (request : List UInt8) (query : Query) :
    Option (List UInt8) :=
  if request.length < Header.size + query.questionLength then
    none
  else
    let question := (request.drop Header.size).take query.questionLength
    let answer := match table.answer? query with
      | some address => encodeAnswer table.ttl address
      | none => []
    some ((table.responseHeader query).encode ++ question ++ answer)

end RecordTable

end StubDns
