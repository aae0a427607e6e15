import StubDns.Config.Load
import StubDns.Dns.RecordTable

/-! # Configuration of the server

Where to listen, what to answer and for how long answers hold. Settings give
it as a table `server` with an address and a port, a table `records` of
addresses by domain, and the number `ttl`.
-/

namespace StubDns

structure ServerConfig where
  listen : Endpoint
  ttl : UInt32
  records : AddressBook
  deriving DecidableEq, Repr

namespace ServerConfig

def table (config : ServerConfig) : RecordTable := .make config.records config.ttl

/-! ## Reading settings -/

/-- The part of settings about the place to listen. -/
def serverRecord : Record := ⟨"ServerConfiguration", 2⟩

def listenOfTable (entries : SettingTable) : Read Endpoint := do
  let ip ← entries.field? "ip_address" Setting.ip
  let port ← entries.field? "port" Setting.whole16
  return ⟨← required "ip_address" ip, ← required "port" port⟩

/-- Read address and port in this order. -/
def listenOfList (items : SettingList) : Read Endpoint := do
  let ip ← serverRecord.requiredItem 0 (← items.field? 0 Setting.ip)
  let port ← serverRecord.requiredItem 1 (← items.field? 1 Setting.whole16)
  return ⟨ip, port⟩

def readListen : Setting → Read Endpoint := serverRecord.read listenOfTable listenOfList

/-- Read the addresses of domains one by one. -/
def recordsOfTable : SettingTable → Read AddressBook
  | .nil => .ok []
  | .cons domain setting rest => do
      let address ← setting.ipv4.mapError (·.atKey domain)
      let others ← recordsOfTable rest
      return (domain, address) :: others

def readRecords (setting : Setting) : Read AddressBook :=
  match setting with
  | .table _ entries => recordsOfTable entries
  | _ => .error (.parts setting .map)

/-- Read a configuration. Records may be missing. -/
def read (settings : Setting) : Read ServerConfig := do
  let entries := settings.asTable.2
  let listen ← entries.field? "server" readListen
  let ttl ← entries.field? "ttl" Setting.whole32
  let records ← entries.field? "records" readRecords
  let listen ← required "server" listen
  let ttl ← required "ttl" ttl
  return ⟨listen, ttl, records.getD []⟩

/-! ## Loading -/

/-- The seconds that answers hold unless told otherwise. -/
def defaultTtl : Int := 60

def defaults : List Default := [
  Config.sectionDefault "server" "ip_address" (.string Config.defaultIp),
  Config.sectionDefault "server" "port" (.integer Config.defaultPort),
  Config.rootDefault "ttl" (.integer defaultTtl)]

/-- Load the configuration from a file over the built-in defaults. -/
def load (files : Files) (path : Text) : Read ServerConfig :=
  (Config.settings defaults files path).bind read

/-- Without a file the defaults hold, and no domain is known. -/
example : load [] "server.toml".toList = .ok ⟨⟨.loopback, 2053⟩, 60, []⟩ := by rfl

end ServerConfig

end StubDns
