import StubDns.CommandLine.ClientFlags
import StubDns.Dns.Query
import StubDns.Network.Exchange
import StubDns.Text.ByteLiteral

/-! # The client

A run of the client reads its arguments, loads its configuration, sends one
query and prints the response. Each step that fails ends the run with a report
and without the steps after it.
-/

namespace StubDns

/-- What a run of a program shows when it ends; without an exit status it is
still waiting. -/
structure Run where
  exit : Option Nat
  output : String
  errors : String
  sent : List (Endpoint × Datagram)
  deriving DecidableEq, Repr

namespace Run

def failing (report : String) : Run := ⟨some 1, "", report, []⟩

/-- A run that explains the program. -/
def explaining (text : String) : Run := ⟨some 0, text ++ "\n", "", []⟩

end Run

def errorLine (report : String) : String := "Error: " ++ report ++ "\n"

def usageReport (program : String) (error : CommandLine.UsageError) : String :=
  error.message ++ "\nRun " ++ program ++ " --help for more information.\n"

/-- The values given to a program's flags, or the run that arguments lead to. -/
def CommandLine.Command.start (command : Command Given) (arguments : List Text) :
    Except Run Given :=
  match command.read arguments with
  | .error error => .error (.failing (usageReport command.name error))
  | .ok .help => .error (.explaining command.help)
  | .ok (.run given) => .ok given

namespace Client

def message (config : ClientConfig) : Message where
  server := config.server
  datagram := (Query.make config.domain .standard).encode
  patience := config.patience

/-- The message that arguments and files ask for, or the run that they end. -/
def prepare (files : Files) (arguments : List Text) : Except Run Message :=
  match ClientFlags.command.start arguments with
  | .error run => .error run
  | .ok flags =>
      match flags.load files with
      | .error error => .error (.failing (errorLine error.message))
      | .ok config => .ok (message config)

def responseLine (response : Datagram) : String :=
  "res: b'" ++ String.ofList (ByteLiteral.escape response) ++ "'\n"

def report (sent : List (Endpoint × Datagram)) : Outcome → Run
  | .response datagram => ⟨some 0, responseLine datagram, "", sent⟩
  | .failed error => ⟨some 1, "", errorLine error.details, sent⟩
  | .waiting => ⟨none, "", "", sent⟩

def run (network : Network) (files : Files) (arguments : List Text) : Run :=
  match prepare files arguments with
  | .error run => run
  | .ok message => report (message.sent network) (message.exchange network)

end Client

end StubDns
