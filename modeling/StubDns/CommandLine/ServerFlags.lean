import StubDns.CommandLine.Flags
import StubDns.Config.Server

/-! # Flags of the server

The server takes the path of its configuration file and nothing else.
-/

namespace StubDns

open CommandLine

structure ServerFlags where
  config : Option Text
  deriving DecidableEq, Repr

namespace ServerFlags

def storeConfig (value : Text) (flags : ServerFlags) : Except ValueError ServerFlags :=
  (once flags.config (.ok value)).map fun config => { flags with config }

def command : Command ServerFlags where
  name := "mock_server"
  description := "local DNS stub answering A queries from a static table"
  initial := ⟨none⟩
  flags := [
    ⟨"--config".toList, "config file path, default: './mock_server_config.toml'", storeConfig⟩]

/-- The configuration file unless a flag names another. -/
def defaultConfig : Text := "./mock_server_config.toml".toList

def configPath (flags : ServerFlags) : Text := flags.config.getD defaultConfig

def load (flags : ServerFlags) (files : Files) : Read ServerConfig :=
  ServerConfig.load files flags.configPath

end ServerFlags

end StubDns
