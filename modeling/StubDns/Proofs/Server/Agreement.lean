import StubDns.Client
import StubDns.Proofs.Dns.QueryRoundTrip
import StubDns.Proofs.Dns.RecordLookup
import StubDns.Proofs.Network.Delivery
import StubDns.Proofs.Server.Steps

/-! # Agreement of client and server

A client asks a server for a domain. Its query fits what the server reads of a
datagram, the response fits what the client reads, and the response says what
the records say: the address of the name that is the domain up to the case of
ASCII letters, or that there is none.
-/

namespace StubDns.Server

/-! ## A server on a network -/

/-- The datagrams that a reaction puts on the network. -/
def Reaction.replies : Reaction → List Datagram
  | .reply response => [response]
  | .drop => []
  | .crash => []

/-- A network on which one endpoint is a server with a table and a buffer. -/
def network (endpoint : Endpoint) (table : RecordTable) (buffer : Datagram) : Network :=
  .withServer endpoint fun datagram => (step table buffer datagram).1.reaction.replies

theorem network_replies {endpoint : Endpoint} {table : RecordTable}
    {buffer datagram response : Datagram}
    (replied : (step table buffer datagram).1.reaction = .reply response) :
    (network endpoint table buffer).replies endpoint datagram = .ok [response] := by
  simp only [network, Network.withServer, if_pos, replied, Reaction.replies]

theorem step_of_decode (table : RecordTable) {buffer : Datagram}
    (full : buffer.length = maxDatagram) {datagram : Datagram}
    (short : datagram.length ≤ maxDatagram) {query : Query}
    (read : Query.decode datagram = .ok query) :
    (step table buffer datagram).1.reaction = .reply (table.response datagram query) := by
  rw [step_eq full, received_eq_self short, handle_of_decode read]

theorem patience_ne_zero {config : ClientConfig} (timeout : config.timeout ≠ some 0) :
    config.patience ≠ some ⟨0, 0⟩ := by
  intro impatient
  rcases Option.map_eq_some_iff.mp impatient with ⟨milliseconds, given, equal⟩
  have positive : milliseconds.toNat ≠ 0 := by
    intro zero
    apply timeout
    have none : milliseconds = 0 := UInt64.toNat_inj.mp zero
    rw [given, none]
  exact Duration.ofMilliseconds_ne_zero positive equal

/-- A client that waits reads the reply of a server. -/
theorem exchange_of_reply {config : ClientConfig} {table : RecordTable}
    {buffer response : Datagram} (port : config.server.port ≠ 0)
    (timeout : config.timeout ≠ some 0)
    (short : (Query.make config.domain .standard).encode.length ≤ maxDatagram)
    (replied : (step table buffer (Query.make config.domain .standard).encode).1.reaction =
      .reply response) :
    (Client.message config).exchange (network config.server table buffer) =
      .response (received response) := by
  have patient : (Client.message config).patience ≠ some ⟨0, 0⟩ := patience_ne_zero timeout
  exact Message.exchange_of_replies port patient short (network_replies replied)

/-! ## The response of a server -/

/-- What a client reads of a response agrees with the records: the response
repeats the question, and either ends with the address that the records give the
domain or says that there is none. -/
structure Agrees (records : AddressBook) (ttl : UInt32) (domain : Text)
    (response : Datagram) (query : Query) : Prop where
  read : Query.decode response = .ok query
  sameId : query.header.id = 0x0A0B
  sameDomain : query.domain = domain
  sameType : query.qtype = 1
  sameClass : query.qclass = 1
  sameQuestion : query.questionBytes response =
    (Query.make domain .standard).encode.drop Header.size
  known : ∀ name address, (name, address) ∈ records →
    Text.foldAscii name = Text.foldAscii domain →
      query.header.flags = 0x8180 ∧ query.header.answers = 1 ∧
        response.length = (Utf8.encode domain).length + 34 ∧
        response.drop (response.length - 10) =
          doubleWordBytes ttl ++ ([0, 4] ++ address.octets)
  unknown : (∀ name address, (name, address) ∈ records →
      Text.foldAscii name ≠ Text.foldAscii domain) →
    query.header.flags = 0x8183 ∧ query.header.answers = 0 ∧
      response.length = (Utf8.encode domain).length + 18 ∧
      response.drop Header.size = (Query.make domain .standard).encode.drop Header.size

section Response

variable {records : AddressBook} {ttl : UInt32} {domain : Text}

/-- The response to the query of a client. -/
def clientResponse (table : RecordTable) (domain : Text) : Datagram :=
  table.response (Query.make domain .standard).encode (.make domain .standard)

/-- The flags of responses to a client. -/
def standardFlags (code : RecordTable.ResponseCode) : UInt16 :=
  RecordTable.responseFlag
    ||| (QueryOptions.standard.flags &&& QueryOptions.recursionDesired)
    ||| RecordTable.recursionAvailable ||| code.code

theorem length_clientResponse (table : RecordTable) (nonempty : domain ≠ []) :
    (clientResponse table domain).length = (Utf8.encode domain).length + 18 +
      (table.answerSection (.make domain .standard)).length := by
  have enough := Query.length_le_encode_make domain .standard
  rw [clientResponse, RecordTable.length_response enough, Query.questionLength_make nonempty,
    Header.size]
  omega

/-- A server reads the query for a domain of up to 494 bytes whole, and responds to it. -/
theorem step_of_client {buffer : Datagram} (full : buffer.length = maxDatagram)
    (table : RecordTable) (nonempty : domain ≠ []) (writable : Name.Writable domain)
    (short : (Utf8.encode domain).length ≤ 494) :
    (step table buffer (Query.make domain .standard).encode).1.reaction =
      .reply (clientResponse table domain) := by
  apply step_of_decode table full _ (Query.decode_encode_make writable .standard)
  rw [Query.length_encode_make, Query.questionLength_make nonempty, Header.size, maxDatagram]
  omega

theorem agrees_clientResponse (consistent : records.CaseConsistent) (nonempty : domain ≠ [])
    (writable : Name.Writable domain) :
    Agrees records ttl domain (clientResponse (.make records ttl) domain)
      { Query.make domain .standard with
        header := (RecordTable.make records ttl).responseHeader (.make domain .standard) } where
  read := RecordTable.decode_response (Query.decode_encode_make writable .standard)
  sameId := rfl
  sameDomain := rfl
  sameType := rfl
  sameClass := rfl
  sameQuestion := by
    have enough := Query.length_le_encode_make domain .standard
    change (Query.make domain .standard).questionBytes (clientResponse _ domain) = _
    rw [clientResponse, RecordTable.questionBytes_response enough, Query.questionBytes_make]
  known := by
    intro name address member equal
    have found : (RecordTable.make records ttl).lookup domain = some address :=
      (RecordTable.lookup_make_eq_some_iff consistent).mpr ⟨name, member, equal⟩
    have header : (RecordTable.make records ttl).responseHeader (.make domain .standard) =
        ⟨0x0A0B, standardFlags .noError, 1, 1, 0, 0⟩ :=
      RecordTable.responseHeader_of_lookup rfl rfl found
    have answers : (RecordTable.make records ttl).answerSection (.make domain .standard) =
        RecordTable.encodeAnswer ttl address :=
      RecordTable.answerSection_of_lookup rfl rfl found
    have length := length_clientResponse (.make records ttl) nonempty
    rw [answers, RecordTable.length_encodeAnswer] at length
    have flags : standardFlags .noError = 0x8180 := by decide
    refine ⟨(congrArg Header.flags header).trans flags, congrArg Header.answers header,
      length, ?_⟩
    have enough := Query.length_le_encode_make domain .standard
    have front : (clientResponse (.make records ttl) domain).length - 10 =
        Header.size + (Query.make domain .standard).questionLength + 6 := by
      rw [length, Query.questionLength_make nonempty, Header.size]
      omega
    rw [front, ← List.drop_drop, clientResponse, RecordTable.drop_response enough, answers]
    exact RecordTable.drop_encodeAnswer ttl address
  unknown := by
    intro absent
    have unknown : (RecordTable.make records ttl).lookup domain = none :=
      RecordTable.lookup_make_eq_none_iff.mpr absent
    have header : (RecordTable.make records ttl).responseHeader (.make domain .standard) =
        ⟨0x0A0B, standardFlags .noSuchName, 1, 0, 0, 0⟩ :=
      RecordTable.responseHeader_of_unknown unknown
    have answers : (RecordTable.make records ttl).answerSection (.make domain .standard) = [] :=
      RecordTable.answerSection_of_unknown unknown
    have length := length_clientResponse (.make records ttl) nonempty
    rw [answers] at length
    have flags : standardFlags .noSuchName = 0x8183 := by decide
    refine ⟨(congrArg Header.flags header).trans flags, congrArg Header.answers header,
      length, ?_⟩
    rw [clientResponse, RecordTable.drop_header_response, answers, Query.questionBytes_make,
      List.append_nil]

end Response

/-! ## Agreement -/

/-- Where no two names differ only in case, a client that asks for a domain reads
the response whole, and the response agrees with the records. The buffer of the
server may hold anything. -/
theorem exchange_agrees {records : AddressBook}
    (distinct : (records.map fun entry => Text.foldAscii entry.1).Nodup) (ttl : UInt32)
    {domain : Text} (nonempty : domain ≠ [])
    (sizes : ∀ label ∈ Text.cut '.' domain,
      1 ≤ (Utf8.encode label).length ∧ (Utf8.encode label).length ≤ 63)
    (short : (Utf8.encode domain).length ≤ 478)
    {buffer : Datagram} (full : buffer.length = maxDatagram) :
    ∃ response query,
      (step (.make records ttl) buffer (Query.make domain .standard).encode).1.reaction =
          .reply response ∧
        received response = response ∧
        (∀ config : ClientConfig, config.domain = domain → config.server.port ≠ 0 →
          config.timeout ≠ some 0 →
            (Client.message config).exchange
                (network config.server (.make records ttl) buffer) = .response response) ∧
        Agrees records ttl domain response query := by
  have writable : Name.Writable domain := .inr sizes
  have querySize : (Query.make domain .standard).encode.length ≤ maxDatagram := by
    rw [Query.length_encode_make, Query.questionLength_make nonempty, Header.size, maxDatagram]
    omega
  have replied := step_of_decode (.make records ttl) full querySize
    (Query.decode_encode_make writable .standard)
  have whole : received (clientResponse (.make records ttl) domain) =
      clientResponse (.make records ttl) domain := by
    apply received_eq_self
    have answers := RecordTable.length_answerSection_le (.make records ttl)
      (.make domain .standard)
    rw [length_clientResponse _ nonempty, maxDatagram]
    omega
  refine ⟨_, _, replied, whole, ?_,
    agrees_clientResponse (AddressBook.caseConsistent_of_nodup distinct) nonempty writable⟩
  intro config sameDomain port timeout
  rw [← sameDomain] at replied querySize whole ⊢
  rw [exchange_of_reply port timeout querySize replied]
  exact congrArg Outcome.response whole

/-- A name is found in another case, and its address is not that of its neighbour. -/
theorem exchange_agrees_in_other_case :
    ∃ response query,
      (step (.make [("Z.cn".toList, ⟨1, 2, 3, 4⟩), ("z.com".toList, ⟨5, 6, 7, 8⟩)] 60)
          freshBuffer (Query.make "z.CN".toList .standard).encode).1.reaction = .reply response ∧
        Query.decode response = .ok query ∧ query.header.flags = 0x8180 ∧
        query.domain = "z.CN".toList ∧
        response.drop (response.length - 10) = [0, 0, 0, 60, 0, 4, 1, 2, 3, 4] := by
  have distinct : ([("Z.cn".toList, (⟨1, 2, 3, 4⟩ : Ipv4)), ("z.com".toList, ⟨5, 6, 7, 8⟩)].map
      fun entry => Text.foldAscii entry.1).Nodup := by decide
  have nonempty : "z.CN".toList ≠ [] := by decide
  have sizes : ∀ label ∈ Text.cut '.' "z.CN".toList,
      1 ≤ (Utf8.encode label).length ∧ (Utf8.encode label).length ≤ 63 := by decide
  have short : (Utf8.encode "z.CN".toList).length ≤ 478 := by decide
  have full : freshBuffer.length = maxDatagram := List.length_replicate
  rcases exchange_agrees distinct 60 nonempty sizes short full with
    ⟨response, query, replied, -, -, agrees⟩
  have known := agrees.known "Z.cn".toList ⟨1, 2, 3, 4⟩ (by decide) (by decide)
  exact ⟨response, query, replied, agrees.read, known.1, agrees.sameDomain, known.2.2.2⟩

end StubDns.Server
