import ProtocolGateway.Gateway.Lifecycle
import ProtocolGateway.Server.Config
import ProtocolGateway.Text.Quoted

/-! A gateway put together from its configuration: plugins are built and registered by name. -/

namespace ProtocolGateway

inductive AssemblyError where
  | invalidResource (key : String)
  | resourcesOfOrigin (plugin : String)
  | invalidSettings (plugin : String) (cause : SettingsError)
  | incompleteSettings (plugin : String) (cause : SettingsError)
  | notRegistered (plugin : String) (cause : ManagerError)
  | config (cause : ConfigError)
  | manager (cause : ManagerError)
  deriving DecidableEq, Repr

def AssemblyError.message : AssemblyError → String
  | .invalidResource key => "Invalid resource key " ++ Text.quoted key ++ ", expected authority/path"
  | .resourcesOfOrigin plugin =>
    "Plugin " ++ plugin ++ ": resources are only supported by memory targets"
  | .invalidSettings plugin cause => "Plugin " ++ plugin ++ ": invalid settings: " ++ cause.message
  | .incompleteSettings plugin cause => "Plugin " ++ plugin ++ ": incomplete settings: " ++ cause.message
  | .notRegistered plugin cause => "Failed to register plugin " ++ plugin ++ ": " ++ cause.message
  | .config cause => ": ".intercalate (cause.message :: cause.reason?.toList)
  | .manager cause => cause.message

namespace PluginConfig

/-- Splits a resource key at its first slash into the authority and an absolute path. -/
def splitResource? (key : String) : Option (String × String) :=
  let authority := key.toList.takeWhile (· ≠ '/')
  match key.toList.drop authority.length with
  | _ :: path =>
    if authority.isEmpty || path.isEmpty then none
    else some (String.ofList authority, String.ofList ('/' :: path))
  | [] => none

def seed (t : MemoryTarget) : List (String × String) → Except AssemblyError MemoryTarget
  | [] => .ok t
  | (key, content) :: rest =>
    match splitResource? key with
    | none => .error (.invalidResource key)
    | some (authority, path) => seed (t.insert authority path (Text.Utf8.encode content)) rest

def bare (c : PluginConfig) (name : String) : Except AssemblyError Plugin :=
  let protocol := ProtocolName.of (c.protocolName name)
  match c.kind with
  | .memoryTarget => (seed (.new protocol) c.resources).map .target
  | .memoryOrigin =>
    if c.resources.isEmpty then .ok (.origin (.new protocol)) else .error (.resourcesOfOrigin name)

def build (c : PluginConfig) (name : String) : Except AssemblyError Plugin :=
  match c.bare name with
  | .error e => .error e
  | .ok plugin =>
    match plugin.settings.apply c.settings with
    | (_, .error cause) => .error (.invalidSettings name cause)
    | (settings, .ok ()) =>
      match settings.validate with
      | .error cause => .error (.incompleteSettings name cause)
      | .ok () => .ok (plugin.withSettings settings)

end PluginConfig

/-- A gateway and the protocols under which requests can be submitted to it. -/
structure Assembly where
  config : Config
  gateway : Gateway
  origins : List ProtocolName
  deriving DecidableEq, Repr

namespace Assembly

def addPlugin (a : Assembly) (name : String) (c : PluginConfig) : Except AssemblyError Assembly :=
  match c.build name with
  | .error e => .error e
  | .ok plugin =>
    match a.gateway.register plugin with
    | .error cause => .error (.notRegistered name cause)
    | .ok gateway =>
      .ok { a with
        gateway := gateway
        origins := match plugin with
          | .origin o => a.origins ++ [o.protocol]
          | .target _ | .scripted _ => a.origins }

def addPlugins (a : Assembly) : List (String × PluginConfig) → Except AssemblyError Assembly
  | [] => .ok a
  | (name, c) :: rest =>
    match a.addPlugin name c with
    | .error e => .error e
    | .ok a => a.addPlugins rest

def ofConfig (c : Config) : Except AssemblyError Assembly :=
  addPlugins ⟨c, .new c.dispatch.manager c.cache.replyCache, []⟩ c.plugins

def origin? (a : Assembly) (name : String) : Option ProtocolName :=
  if a.origins.contains (.of name) then some (.of name) else none

def start (a : Assembly) : Assembly × Except ManagerError Unit :=
  let (g, r) := a.gateway.start
  ({ a with gateway := g }, r)

def stop (a : Assembly) : Assembly × Except ManagerError Unit :=
  let (g, r) := a.gateway.stop
  ({ a with gateway := g }, r)

end Assembly

end ProtocolGateway
