import StubDns.Config.Load
import StubDns.Duration

/-! # Configuration of the client

Where to send a query, which domain to ask for, and how long to wait for the
answer. Settings give it as a table `resolver` with an address, a port and
perhaps a timeout in milliseconds, and a table `query` with the domain.
-/

namespace StubDns

structure ClientConfig where
  server : Endpoint
  /-- The longest wait in milliseconds; without one the client waits forever. -/
  timeout : Option UInt64
  domain : Text
  deriving DecidableEq, Repr

namespace ClientConfig

def patience (config : ClientConfig) : Option Duration :=
  config.timeout.map fun milliseconds => .ofMilliseconds milliseconds.toNat

/-! ## Reading settings -/

/-- The part of settings about the server to ask. -/
def resolverRecord : Record := ⟨"ResolverConfiguration", 3⟩

/-- The part of settings about the question. -/
def queryRecord : Record := ⟨"QueryConfiguration", 1⟩

/-- Read address, port and timeout by name. The timeout may be missing. -/
def resolverOfTable (entries : SettingTable) : Read (Endpoint × Option UInt64) := do
  let ip ← entries.field? "ip_address" Setting.ip
  let port ← entries.field? "port" Setting.whole16
  let timeout ← entries.field? "timeout_ms" Setting.optionalWhole64
  let ip ← required "ip_address" ip
  let port ← required "port" port
  return (⟨ip, port⟩, timeout.join)

/-- Read address, port and timeout in this order. -/
def resolverOfList (items : SettingList) : Read (Endpoint × Option UInt64) := do
  let ip ← resolverRecord.requiredItem 0 (← items.field? 0 Setting.ip)
  let port ← resolverRecord.requiredItem 1 (← items.field? 1 Setting.whole16)
  let timeout ← items.field? 2 Setting.optionalWhole64
  return (⟨ip, port⟩, timeout.join)

def readResolver : Setting → Read (Endpoint × Option UInt64) :=
  resolverRecord.read resolverOfTable resolverOfList

def queryOfTable (entries : SettingTable) : Read Text := do
  required "domain" (← entries.field? "domain" Setting.string)

/-- Read the domain as the only item. -/
def queryOfList (items : SettingList) : Read Text := do
  queryRecord.requiredItem 0 (← items.field? 0 Setting.string)

def readQuery : Setting → Read Text := queryRecord.read queryOfTable queryOfList

/-- Read a configuration. Parts that are there but do not suit are reported
before parts that are missing. -/
def read (settings : Setting) : Read ClientConfig := do
  let entries := settings.asTable.2
  let resolver ← entries.field? "resolver" readResolver
  let query ← entries.field? "query" readQuery
  let (server, timeout) ← required "resolver" resolver
  let domain ← required "query" query
  return ⟨server, timeout, domain⟩

/-! ## Loading -/

/-- The domain that is asked for unless told otherwise. -/
def defaultDomain : Text := "google.com".toList

def defaults : List Default := [
  Config.sectionDefault "resolver" "ip_address" (.string Config.defaultIp),
  Config.sectionDefault "resolver" "port" (.integer Config.defaultPort),
  Config.sectionDefault "query" "domain" (.string defaultDomain)]

/-- Load the configuration from a file over the built-in defaults. -/
def load (files : Files) (path : Text) : Read ClientConfig :=
  (Config.settings defaults files path).bind read

/-- Without a file the defaults hold. -/
example : load [] "dig_config.toml".toList = .ok ⟨⟨.loopback, 2053⟩, none, defaultDomain⟩ := by
  rfl

end ClientConfig

end StubDns
