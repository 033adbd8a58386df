import ProtocolGateway.Gateway.Run

/-!
The life of a gateway: plugins are registered while it is new, then it is started once and stopped
once.
-/

namespace ProtocolGateway

namespace Gateway

def register (g : Gateway) (plugin : Plugin) : Except ManagerError Gateway :=
  let p := plugin.protocol
  if g.phase ≠ .created then .error (.invalidState g.phase)
  else if !plugin.hasClient && !plugin.hasServer then .error (.noCapability p)
  else if Table.has g.plugins p then .error (.alreadyRegistered p)
  else .ok { g with plugins := Table.put p ⟨plugin.link, [], .wired⟩ g.plugins }

abbrev Entries := Table ProtocolName PluginEntry

/-- Locks the settings of one plugin after the other, up to the first that are not complete. -/
def lockAll : Entries → Entries × Except ManagerError Unit
  | [] => ([], .ok ())
  | (p, e) :: rest =>
    match e.plugin.settings.lock with
    | .error cause => ((p, e) :: rest, .error (.plugin p (.settings cause)))
    | .ok settings =>
      let (rest, r) := lockAll rest
      ((p, { e with plugin := e.plugin.withSettings settings }) :: rest, r)

/-- Takes every plugin through a step of its life. All take part; the first failure is reported. -/
def advanceAll (step : Plugin → Plugin × Except PluginError Unit) :
    Entries → Entries × Except ManagerError Unit
  | [] => ([], .ok ())
  | (p, e) :: rest =>
    let (plugin, mine) := step e.plugin
    let (rest, others) := advanceAll step rest
    ((p, { e with plugin := plugin }) :: rest, match mine with
      | .error cause => .error (.plugin p cause)
      | .ok () => others)

/-- Lets every waiting caller know that no outcome will come. -/
def dropPending (g : Gateway) : Gateway :=
  let tickets := g.plugins.flatMap fun e => e.2.pending.map (·.2)
  let g := tickets.foldl (fun g t => (g.conclude t .dropped).1) g
  { g with plugins := g.plugins.map fun e => (e.1, { e.2 with pending := [] }) }

/-- Closes all sinks and stops all plugins. Stopping again does nothing. -/
def stop (g : Gateway) : Gateway × Except ManagerError Unit :=
  if g.phase = .stopped then (g, .ok ())
  else
    let closed := g.plugins.map fun e => (e.1, { e.2 with sink := e.2.sink.close })
    let (entries, r) := advanceAll Plugin.stop closed
    ({ g with phase := .stopped, plugins := entries }.dropPending, r)

/-- Locks all settings and starts all plugins. When one fails to start, the gateway is stopped. -/
def start (g : Gateway) : Gateway × Except ManagerError Unit :=
  if g.phase ≠ .created then (g, .error (.invalidState g.phase))
  else
    match lockAll g.plugins with
    | (entries, .error e) => ({ g with plugins := entries }, .error e)
    | (entries, .ok ()) =>
      let (entries, r) := advanceAll Plugin.start entries
      let g := { g with phase := .running, plugins := entries }
      match r with
      | .ok () => (g, .ok ())
      | .error e => (g.stop.1, .error e)

def letGo (g : Gateway) : Gateway := { g with phase := .gone }

end Gateway

end ProtocolGateway
