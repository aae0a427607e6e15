import StubDns.CommandLine.Flags
import StubDns.Config.Client

/-! # Flags of the client

The client takes the path of its configuration file, and a flag for each thing
that the configuration says. Flags win over the configuration.
-/

namespace StubDns

open CommandLine

structure ClientFlags where
  config : Option Text
  server : Option Ip
  port : Option UInt16
  domain : Option Text
  timeout : Option UInt64
  deriving DecidableEq, Repr

namespace ClientFlags

/-- No flag is given. -/
def unset : ClientFlags := ⟨none, none, none, none, none⟩

/-! ## Values -/

def readIp (value : Text) : Except String Ip :=
  match Ip.read? value with
  | some ip => .ok ip
  | none => .error SettingsError.address.message

def readWhole (limit : Nat) (value : Text) : Except String Nat :=
  (Whole.read limit value).mapError Whole.ReadError.message

def storeConfig (value : Text) (flags : ClientFlags) : Except ValueError ClientFlags :=
  (once flags.config (.ok value)).map fun config => { flags with config }

def storeServer (value : Text) (flags : ClientFlags) : Except ValueError ClientFlags :=
  (once flags.server (readIp value)).map fun server => { flags with server }

def storePort (value : Text) (flags : ClientFlags) : Except ValueError ClientFlags :=
  (once flags.port ((readWhole Whole.limit16 value).map UInt16.ofNat)).map fun port => { flags with port }

def storeDomain (value : Text) (flags : ClientFlags) : Except ValueError ClientFlags :=
  (once flags.domain (.ok value)).map fun domain => { flags with domain }

def storeTimeout (value : Text) (flags : ClientFlags) : Except ValueError ClientFlags :=
  (once flags.timeout ((readWhole Whole.limit64 value).map UInt64.ofNat)).map fun timeout =>
    { flags with timeout }

/-! ## The command -/

def command : Command ClientFlags where
  name := "dig"
  description := "send one A query over UDP and print the raw response"
  initial := unset
  flags := [
    ⟨"--config".toList, "config file path, default: './dig_config.toml'", storeConfig⟩,
    ⟨"--server".toList, "resolver address, default: 127.0.0.1", storeServer⟩,
    ⟨"--port".toList, "resolver port, default: 2053", storePort⟩,
    ⟨"--domain".toList, "domain to query, default: google.com", storeDomain⟩,
    ⟨"--timeout-ms".toList,
      "give up after this many milliseconds, default: wait forever", storeTimeout⟩]

/-- The configuration file unless a flag names another. -/
def defaultConfig : Text := "./dig_config.toml".toList

def configPath (flags : ClientFlags) : Text := flags.config.getD defaultConfig

def apply (flags : ClientFlags) (config : ClientConfig) : ClientConfig where
  server := ⟨flags.server.getD config.server.ip, flags.port.getD config.server.port⟩
  domain := flags.domain.getD config.domain
  timeout := flags.timeout.or config.timeout

def load (flags : ClientFlags) (files : Files) : Read ClientConfig :=
  (ClientConfig.load files flags.configPath).map flags.apply

end ClientFlags

end StubDns
