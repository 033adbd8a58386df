import ProtocolGateway.Gateway.State
import ProtocolGateway.Plugin.SettingsDocument
import ProtocolGateway.Toml.Document
import ProtocolGateway.Web.SocketAddress

/-!
Configuration of a gateway server. What a document leaves out takes its default; host and port may
come from the environment.
-/

namespace ProtocolGateway

inductive PluginKind where
  | memoryTarget | memoryOrigin
  deriving DecidableEq, Repr

namespace PluginKind

def all : List PluginKind := [.memoryTarget, .memoryOrigin]

def name : PluginKind → String
  | .memoryTarget => "memory-target"
  | .memoryOrigin => "memory-origin"

def reader : Reader PluginKind := fun d x =>
  (Reader.choice (all.map name) d x).bind fun n => all.find? fun k => k.name == n

end PluginKind

structure PluginConfig where
  kind : PluginKind
  protocol : Option String
  /-- Values of settings in the order of their keys. -/
  settings : List (String × SettingValue)
  /-- Contents by `authority/path`, in the order of these. -/
  resources : List (String × String)
  deriving DecidableEq, Repr

namespace PluginConfig

def protocolName (c : PluginConfig) (name : String) : String := c.protocol.getD name

def fieldNames : List String := ["kind", "protocol", "settings", "resources"]

def reader : Reader PluginConfig := fun d x => do
  match ← Reader.slots fieldNames d x with
  | [kind, protocol, settings, resources] =>
    some ⟨← Reader.required PluginKind.reader d kind,
      ← Reader.defaulted (Reader.optional Reader.text) none d protocol,
      ← Reader.defaulted Settings.valuesReader [] d settings,
      ← Reader.defaulted (Reader.table Reader.text) [] d resources⟩
  | _ => none

def datum (c : PluginConfig) : Datum :=
  .ofMembers [("kind", .text c.kind.name), ("protocol", .ofOption (c.protocol.map .text)),
    ("settings", Settings.valuesDatum c.settings),
    ("resources", .ofMembers (c.resources.map fun (k, v) => (k, .text v)))]

end PluginConfig

/-! Sections -/

def wordReader : Reader Nat := Reader.nat Word.max64

def portReader : Reader Nat := Reader.nat Word.max16

structure DispatchConfig where
  maxInFlight : Nat := 256
  linkReadyMillis : Nat := 5000
  deriving DecidableEq, Repr

namespace DispatchConfig

def reader : Reader DispatchConfig := fun d x => do
  match ← Reader.slots ["max_in_flight", "link_ready_timeout_ms"] d x with
  | [maxInFlight, linkReady] =>
    some ⟨← Reader.defaulted wordReader 256 d maxInFlight,
      ← Reader.defaulted wordReader 5000 d linkReady⟩
  | _ => none

def datum (c : DispatchConfig) : Datum :=
  .ofMembers [("max_in_flight", .int c.maxInFlight), ("link_ready_timeout_ms", .int c.linkReadyMillis)]

def manager (c : DispatchConfig) : ManagerConfig := ⟨c.maxInFlight, .ofMillis c.linkReadyMillis⟩

end DispatchConfig

structure CacheConfig where
  enabled : Bool := false
  defaultTtlMillis : Nat := 30000
  maxEntries : Nat := 10000
  deriving DecidableEq, Repr

namespace CacheConfig

def reader : Reader CacheConfig := fun d x => do
  match ← Reader.slots ["enabled", "default_ttl_ms", "max_entries"] d x with
  | [enabled, ttl, maxEntries] =>
    some ⟨← Reader.defaulted Reader.bool false d enabled, ← Reader.defaulted wordReader 30000 d ttl,
      ← Reader.defaulted wordReader 10000 d maxEntries⟩
  | _ => none

def datum (c : CacheConfig) : Datum :=
  .ofMembers [("enabled", .bool c.enabled), ("default_ttl_ms", .int c.defaultTtlMillis),
    ("max_entries", .int c.maxEntries)]

def replyCache (c : CacheConfig) : ReplyCache :=
  if c.enabled then .memory (.new (.ofMillis c.defaultTtlMillis) c.maxEntries) else .off

end CacheConfig

structure MetricsConfig where
  enabled : Bool := true
  port : Nat := 9090
  sampleMillis : Nat := 1000
  deriving DecidableEq, Repr

namespace MetricsConfig

def reader : Reader MetricsConfig := fun d x => do
  match ← Reader.slots ["enabled", "port", "sample_interval_ms"] d x with
  | [enabled, port, sample] =>
    some ⟨← Reader.defaulted Reader.bool true d enabled, ← Reader.defaulted portReader 9090 d port,
      ← Reader.defaulted wordReader 1000 d sample⟩
  | _ => none

def datum (c : MetricsConfig) : Datum :=
  .ofMembers [("enabled", .bool c.enabled), ("port", .int c.port),
    ("sample_interval_ms", .int c.sampleMillis)]

end MetricsConfig

/-! The whole -/

structure Environment where
  host : Option String
  port : Option String
  deriving DecidableEq, Repr

namespace Environment

def readPort (s : String) : Option Nat :=
  let digits := match s.toList with
    | '+' :: rest => rest
    | cs => cs
  Web.SocketAddress.numberUpTo Word.max16 digits

def defaultHost (e : Environment) : String := e.host.getD "127.0.0.1"

def defaultPort (e : Environment) : Nat := (e.port.bind readPort).getD 8080

end Environment

structure Config where
  host : String
  port : Nat
  dispatch : DispatchConfig
  cache : CacheConfig
  metrics : MetricsConfig
  /-- Plugins in the order of their names. -/
  plugins : List (String × PluginConfig)
  deriving DecidableEq, Repr

inductive ConfigError where
  | unreadable (path : String)
  /-- The document is not well-formed, or a value in it is not of the declared type. -/
  | malformed
  | bindAddress (host : String) (port : Nat)
  deriving DecidableEq, Repr

def ConfigError.message : ConfigError → String
  | .unreadable path => "Failed to read config file: " ++ path
  | .malformed => "Failed to parse config file"
  | .bindAddress host port => "Invalid bind address " ++ host ++ ":" ++ toString port

def ConfigError.reason? : ConfigError → Option String
  | .bindAddress .. => some "invalid socket address syntax"
  | .unreadable _ | .malformed => none

namespace Config

def standard (e : Environment) : Config := ⟨e.defaultHost, e.defaultPort, {}, {}, {}, []⟩

def fieldNames : List String := ["host", "port", "dispatch", "cache", "metrics", "plugins"]

def reader (e : Environment) : Reader Config := fun d x => do
  match ← Reader.slots fieldNames d x with
  | [host, port, dispatch, cache, metrics, plugins] =>
    some ⟨← Reader.defaulted Reader.text e.defaultHost d host,
      ← Reader.defaulted portReader e.defaultPort d port,
      ← Reader.defaulted DispatchConfig.reader {} d dispatch,
      ← Reader.defaulted CacheConfig.reader {} d cache,
      ← Reader.defaulted MetricsConfig.reader {} d metrics,
      ← Reader.defaulted (Reader.table PluginConfig.reader) [] d plugins⟩
  | _ => none

def datum (c : Config) : Datum :=
  .ofMembers [("host", .text c.host), ("port", .int c.port), ("dispatch", c.dispatch.datum),
    ("cache", c.cache.datum), ("metrics", c.metrics.datum),
    ("plugins", .ofMembers (c.plugins.map fun (name, p) => (name, p.datum)))]

def ofToml (e : Environment) (text : String) : Except ConfigError Config :=
  match (Toml.read text).bind (reader e Toml.dialect) with
  | some c => .ok c
  | none => .error .malformed

/-- Loads the first configuration file found, or takes the defaults when there is none. -/
def load (e : Environment) (file : Option String) : Except ConfigError Config :=
  match file with
  | some text => ofToml e text
  | none => .ok (standard e)

/-- Loads the file at a path, of which `content` is given if it can be read. -/
def ofFile (e : Environment) (path : String) (content : Option String) : Except ConfigError Config :=
  match content with
  | some text => ofToml e text
  | none => .error (.unreadable path)

def bindAddress (c : Config) : Except ConfigError Web.SocketAddress :=
  match Web.SocketAddress.parse? (c.host ++ ":" ++ toString c.port) with
  | some a => .ok a
  | none => .error (.bindAddress c.host c.port)

end Config

end ProtocolGateway
