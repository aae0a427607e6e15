import StubDns.Client
import StubDns.CommandLine.ServerFlags
import StubDns.Dns.RecordType

/-! # The server

A run of the server reads its arguments, loads its configuration and listens.
Then it takes one datagram after the other into the same buffer, answers those
that are queries and drops the others. Each datagram leaves a record in the log.
What the socket refuses leaves one more and is otherwise passed over.
-/

namespace StubDns.Server

/-! ## One datagram -/

/-- What the server notes about a datagram. -/
inductive LogRecord
  | dropped (length : Nat) (error : DecodeError)
  | asked (id : UInt16) (domain : Text) (qtype : UInt16)
  /-- The reply could not be sent, for a reason in the words of the machine. -/
  | unsent (reason : String)
  deriving DecidableEq, Repr

/-- How urgent a record is. -/
def LogRecord.level : LogRecord → String
  | .dropped .. => "WARN"
  | .asked .. => "INFO"
  | .unsent .. => "WARN"

/-- A word with four digits in base sixteen. -/
def hexWord (word : UInt16) : Text :=
  let digits := Nat.toDigits 16 word.toNat
  '0' :: 'x' :: List.replicate (4 - digits.length) '0' ++ digits

/-- The text of a record about a datagram from `peer`. -/
def LogRecord.message (peer : String) : LogRecord → String
  | .dropped length error =>
      "dropping malformed query from " ++ peer ++ s!", length: {length}, err: " ++ error.message
  | .asked id domain qtype =>
      "query from " ++ peer ++ ", id: " ++ String.ofList (hexWord id) ++ ", domain: '"
        ++ String.ofList domain ++ "', type: " ++ RecordType.name qtype
  | .unsent reason => "udp send to " ++ peer ++ " err: " ++ reason

/-- One line of the log. -/
structure LogLine where
  level : String
  text : String
  deriving DecidableEq, Repr

def LogRecord.line (peer : String) (record : LogRecord) : LogLine :=
  ⟨record.level, record.message peer⟩

/-- The line about a datagram that could not be received. -/
def unreceived (reason : String) : LogLine := ⟨"WARN", "udp recv err: " ++ reason⟩

/-- What the server does about a datagram. -/
inductive Reaction
  | reply (response : Datagram)
  | drop
  /-- The request does not hold the question that was read from it; the server
  ends. -/
  | crash
  deriving DecidableEq, Repr

/-- What the server decides about a datagram, and what it notes of that before it sends. -/
structure Handling where
  reaction : Reaction
  record : LogRecord
  deriving DecidableEq, Repr

/-- Answer a query that was read from a request. -/
def answer (table : RecordTable) (request : Datagram) (query : Query) : Reaction :=
  match table.respond? request query with
  | some response => .reply response
  | none => .crash

/-- Handle a request, that is, what was read of a datagram. -/
def handle (table : RecordTable) (request : Datagram) : Handling :=
  match Query.decode request with
  | .error error => ⟨.drop, .dropped request.length error⟩
  | .ok query =>
      ⟨answer table request query, .asked query.header.id query.domain query.qtype⟩

/-! ## The buffer -/

/-- A buffer after a datagram has been received into it. What is longer than the
buffer is cut, and what is behind a shorter one stays. -/
def fill (buffer : Datagram) (datagram : Datagram) : Datagram :=
  datagram.take buffer.length ++ buffer.drop datagram.length

/-- Receive a datagram into the buffer and handle it. -/
def step (table : RecordTable) (buffer : Datagram) (datagram : Datagram) :
    Handling × Datagram :=
  let filled := fill buffer datagram
  (handle table (filled.take (min datagram.length buffer.length)), filled)

/-! ## Turns -/

/-- What the socket does in one turn. -/
inductive Arrival
  /-- It gives a datagram of a peer, and perhaps refuses to send to this peer. -/
  | datagram (bytes : Datagram) (peer : String) (refusal : Option String)
  /-- It gives nothing, for a reason in the words of the machine. -/
  | failure (reason : String)
  deriving DecidableEq, Repr

/-- What is left of one turn: what was done about a datagram, if there was one, and what was
logged. -/
structure Turn where
  reaction : Option Reaction
  log : List LogLine
  deriving DecidableEq, Repr

/-- What is noted about a datagram in all, when the socket perhaps refuses to send. -/
def Handling.records (handling : Handling) (refusal : Option String) : List LogRecord :=
  match handling.reaction, refusal with
  | .reply _, some reason => [handling.record, .unsent reason]
  | _, _ => [handling.record]

def Handling.turn (handling : Handling) (peer : String) (refusal : Option String) : Turn :=
  ⟨some handling.reaction, (handling.records refusal).map (·.line peer)⟩

/-- Take one turn, with the buffer before and after it. -/
def takeTurn (table : RecordTable) (buffer : Datagram) : Arrival → Turn × Datagram
  | .failure reason => (⟨none, [unreceived reason]⟩, buffer)
  | .datagram bytes peer refusal =>
      let (handling, filled) := step table buffer bytes
      (handling.turn peer refusal, filled)

/-- Take one turn after the other until the server ends. -/
def serve (table : RecordTable) (buffer : Datagram) : List Arrival → List Turn
  | [] => []
  | arrival :: rest =>
      let (turn, left) := takeTurn table buffer arrival
      if turn.reaction = some .crash then [turn]
      else turn :: serve table left rest

/-- The buffer of a server that has received nothing. -/
def freshBuffer : Datagram := List.replicate maxDatagram 0

/-! ## A run -/

/-- What a server does once it listens. -/
structure Service where
  listen : Endpoint
  table : RecordTable
  deriving DecidableEq, Repr

def service (config : ServerConfig) : Service := ⟨config.listen, config.table⟩

def prepare (files : Files) (arguments : List Text) : Except Run Service :=
  match ServerFlags.command.start arguments with
  | .error run => .error run
  | .ok flags =>
      match flags.load files with
      | .error error => .error (.failing (errorLine error.message))
      | .ok config => .ok (service config)

def start (network : Network) (files : Files) (arguments : List Text) : Except Run Service :=
  match prepare files arguments with
  | .error run => .error run
  | .ok service =>
      match network.listening service.listen with
      | .error error => .error (.failing (errorLine error.details))
      | .ok () => .ok service

def banner (process : String) (service : Service) : String :=
  "Listening on: " ++ String.ofList service.listen.render ++ ", pid: " ++ process
    ++ s!", records: {service.table.size}"

end StubDns.Server
