import Std.Async.Timer
import Std.Async.UDP
import StubDns.Client
import StubDns.Server

/-! # The programs

The outer layer of client and server: reading files, sockets and printing. The
first argument tells which of the two is meant. All that is said and sent is
decided by `Client` and `Server`.
-/

namespace StubDns.Program

open Std.Async

/-! ## Files -/

/-- The file at some parts of a path, with the folders on the way to it. -/
def readAt (parts : List Text) : IO Files := do
  try
    let bytes ← IO.FS.readBinFile (String.ofList (Text.join '/' parts))
    let fronts := (List.range parts.length).map parts.take
    let folders : Files := fronts.map fun front => (front.foldl Files.move [], .folder)
    return (parts.foldl Files.move [], .file bytes.toList) :: folders
  catch _ =>
    return []

/-- The files that a path may mean. -/
def readCandidates (path : Text) : IO Files := do
  let parts := Files.segments path
  let named ← readAt parts
  match parts.getLast? with
  | none => return named
  | some last => return named ++ (← readAt (parts.dropLast ++ [last ++ ".toml".toList]))

/-! ## Sockets -/

/-- An endpoint as sockets take it. -/
def socketAddress (endpoint : Endpoint) : Std.Net.SocketAddress :=
  match endpoint.ip with
  | .v4 address =>
      .v4 ⟨⟨#v[address.first, address.second, address.third, address.fourth]⟩, endpoint.port⟩
  | .v6 address => .v6 ⟨⟨address.groups⟩, endpoint.port⟩

/-- Any port of any address of the family of an endpoint. -/
def anyAddress (endpoint : Endpoint) : Std.Net.SocketAddress :=
  match endpoint.ip with
  | .v4 _ => .v4 ⟨⟨#v[0, 0, 0, 0]⟩, 0⟩
  | .v6 _ => .v6 ⟨⟨#v[0, 0, 0, 0, 0, 0, 0, 0]⟩, 0⟩

/-- The first datagram that arrives, if one arrives in time. -/
def receive (socket : UDP.Socket) (patience : Option Duration) : Async (Option Datagram) := do
  let size := UInt64.ofNat maxDatagram
  match patience with
  | none => return some (← socket.recv size).1.toList
  | some duration =>
      let milliseconds := duration.seconds * 1000 + duration.nanoseconds / 1000000
      let timer ← Sleep.mk (.ofNat milliseconds)
      Selectable.one #[
        .case (socket.recvSelector size) fun arrived => return some arrived.1.toList,
        .case timer.selector fun _ => return none]

def exchange (message : Message) : IO Outcome := do
  match message.refusal? with
  | some error => return .failed error
  | none =>
      let socket ← UDP.Socket.mk
      socket.bind (anyAddress message.server)
      (socket.send ⟨message.datagram.toArray⟩ (some (socketAddress message.server))).block
      match ← (receive socket message.patience).block with
      | some datagram => return .response datagram
      | none => return .failed (.timedOut message.server (message.patience.getD ⟨0, 0⟩))

def present (run : Run) : IO UInt32 := do
  IO.print run.output
  IO.eprint run.errors
  return UInt32.ofNat (run.exit.getD 1)

/-! ## The two programs -/

/-- The path of the configuration file that arguments name. -/
def namedConfig (command : CommandLine.Command Given) (path : Given → Text)
    (arguments : List Text) : IO Files :=
  match command.start arguments with
  | .ok given => readCandidates (path given)
  | .error _ => return []

def runClient (arguments : List Text) : IO UInt32 := do
  let files ← namedConfig ClientFlags.command ClientFlags.configPath arguments
  match Client.prepare files arguments with
  | .error run => present run
  | .ok message => present (Client.report [] (← exchange message))

/-- The number of this process, as the system shows it. -/
def processNumber : IO String := do
  try
    return String.ofList ((← IO.FS.readFile "/proc/self/stat").toList.takeWhile Char.isDigit)
  catch _ =>
    return "unknown"

/-- A peer as log lines show it. -/
def peerText (peer : Option Std.Net.SocketAddress) : String :=
  match peer with
  | some (.v4 address) =>
      String.ofList (Endpoint.render ⟨.v4 ⟨address.addr.octets[0], address.addr.octets[1],
        address.addr.octets[2], address.addr.octets[3]⟩, address.port⟩)
  | some (.v6 address) => String.ofList (Endpoint.render ⟨.v6 ⟨address.addr.segments⟩, address.port⟩)
  | none => "unknown"

/-- What comes of an action; a failure in the words of the machine. -/
def attempt (action : IO α) : IO (Except String α) := do
  try
    return .ok (← action)
  catch error =>
    return .error (toString error)

def note (line : Server.LogLine) : IO Unit := IO.eprintln (line.level ++ " " ++ line.text)

/-- Take turns as long as the server lives. -/
partial def listenOn (socket : UDP.Socket) (service : Server.Service) (buffer : Datagram) :
    IO UInt32 := do
  match ← attempt (socket.recv (UInt64.ofNat maxDatagram)).block with
  | .error reason => do
      note (Server.unreceived reason)
      listenOn socket service buffer
  | .ok (bytes, peer) => do
      let (handling, buffer) := Server.step service.table buffer bytes.toList
      let noteRecord := fun record : Server.LogRecord => note (record.line (peerText peer))
      noteRecord handling.record
      match handling.reaction with
      | .crash => return 101
      | .drop => listenOn socket service buffer
      | .reply response => do
          match ← attempt (socket.send ⟨response.toArray⟩ peer).block with
          | .ok () => listenOn socket service buffer
          | .error reason => do
              noteRecord (.unsent reason)
              listenOn socket service buffer

def runServer (arguments : List Text) : IO UInt32 := do
  let files ← namedConfig ServerFlags.command ServerFlags.configPath arguments
  match Server.prepare files arguments with
  | .error run => present run
  | .ok service => do
      let socket ← UDP.Socket.mk
      socket.bind (socketAddress service.listen)
      IO.println (Server.banner (← processNumber) service)
      listenOn socket service Server.freshBuffer

/-- Run a program; what the machine refuses ends it. -/
def guarded (program : IO UInt32) : IO UInt32 := do
  try
    program
  catch error =>
    IO.eprint (errorLine (toString error))
    return 1

end StubDns.Program

open StubDns.Program in
def main (arguments : List String) : IO UInt32 := do
  match arguments with
  | "dig" :: rest => guarded (runClient (rest.map String.toList))
  | "mock_server" :: rest => guarded (runServer (rest.map String.toList))
  | _ => do
      IO.eprintln "The first argument is dig or mock_server."
      return 1
