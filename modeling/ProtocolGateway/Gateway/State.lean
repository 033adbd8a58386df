import ProtocolGateway.Data.Table
import ProtocolGateway.Delivery.Sink
import ProtocolGateway.Plugin.Plugin
import ProtocolGateway.Routing.Keyring
import ProtocolGateway.Routing.Stages

/-!
The state of a gateway. Plugins hang on it by one sink each. Everything that has been set in motion
and not yet happened stands in the list of tasks, and any task may happen next.
-/

namespace ProtocolGateway

structure ManagerConfig where
  /-- Forwards that may be under way at the same time. -/
  maxInFlight : Nat
  /-- How long a link may take to get ready. -/
  linkReady : Span
  deriving DecidableEq, Repr

def ManagerConfig.standard : ManagerConfig := ⟨256, .ofSeconds 5⟩

inductive ManagerPhase where
  | created | running | stopped
  /-- Nobody holds the manager any more; plugins and their sinks live on. -/
  | gone
  deriving DecidableEq, Repr

def ManagerPhase.name : ManagerPhase → String
  | .created => "created"
  | .running => "running"
  | .stopped | .gone => "stopped"

inductive ManagerError where
  | alreadyRegistered (p : ProtocolName)
  | noCapability (p : ProtocolName)
  | invalidState (phase : ManagerPhase)
  | plugin (p : ProtocolName) (cause : PluginError)
  deriving DecidableEq, Repr

namespace ManagerError

def name : ManagerError → String
  | .alreadyRegistered _ => "AlreadyRegistered"
  | .noCapability _ => "NoCapability"
  | .invalidState _ => "InvalidState"
  | .plugin .. => "Plugin"

def message : ManagerError → String
  | .alreadyRegistered p => "Protocol already registered: " ++ p.text
  | .noCapability p => "Plugin " ++ p.text ++ " has no client or server side"
  | .invalidState phase => "Manager is " ++ phase.name
  | .plugin p cause => "Plugin " ++ p.text ++ " failed: " ++ cause.message

end ManagerError

/-- What the manager hands to a plugin. -/
inductive Outbound where
  | request (r : Request)
  | push (r : Reply)
  deriving DecidableEq, Repr

/-- What a plugin hands to the manager. -/
inductive Inbound where
  | request (r : Request)
  | answer (m : Message)
  deriving DecidableEq, Repr

abbrev PluginSink := Sink Outbound Inbound

/-- Names one accepted request for the caller that waits for its outcome. -/
abbrev Ticket := Nat

inductive Exchange where
  | waiting
  /-- The caller stopped waiting before there was an outcome. -/
  | abandoned
  | resolved (r : Resolution)
  deriving DecidableEq, Repr

structure PluginEntry where
  plugin : Plugin
  /-- Requests of this plugin that wait for their outcome. -/
  pending : Table Sequence Ticket
  sink : PluginSink
  deriving DecidableEq, Repr

structure Counters where
  /-- Envelopes delivered to a stage. -/
  forwarded : Nat
  /-- Envelopes that were not let pass. -/
  dropped : Nat
  /-- Failures of stages. -/
  faults : Nat
  /-- Answers to requests that nobody waits for. -/
  unmatched : Nat
  deriving DecidableEq, Repr

inductive Task where
  /-- A plugin's sink has values to hand over. -/
  | consume (p : ProtocolName)
  /-- An envelope is on its way to a stage. -/
  | forward (hop : Hop)
  /-- A plugin is sending messages, one after the other. -/
  | respond (p : ProtocolName) (messages : List Message)
  deriving DecidableEq, Repr

structure Gateway where
  config : ManagerConfig
  phase : ManagerPhase
  keys : Keyring
  sequencer : Sequencer
  interconnection : Interconnection
  plugins : Table ProtocolName PluginEntry
  exchanges : List Exchange
  counters : Counters
  tasks : List Task
  /-- Milliseconds since the start. -/
  now : Nat
  deriving DecidableEq, Repr

structure ManagerStats where
  plugins : Nat
  pending : Nat
  subscriptions : SubscriptionStats
  counters : Counters
  deriving DecidableEq, Repr

namespace Gateway

def new (config : ManagerConfig) (cache : ReplyCache) : Gateway :=
  let keys := Keyring.minted 0
  { config, phase := .created, keys, sequencer := .new
    interconnection := .new keys.interconnection cache, plugins := [], exchanges := []
    counters := ⟨0, 0, 0, 0⟩, tasks := [], now := 0 }

def instant (g : Gateway) : Instant := .ofMillis g.now

def isRunning (g : Gateway) : Bool := g.phase == .running

def entry? (g : Gateway) (p : ProtocolName) : Option PluginEntry := Table.at? g.plugins p

def updateEntry (g : Gateway) (p : ProtocolName) (f : PluginEntry → PluginEntry) : Gateway :=
  { g with plugins := Table.update g.plugins p f }

def setPlugin (g : Gateway) (p : ProtocolName) (plugin : Plugin) : Gateway :=
  g.updateEntry p fun e => { e with plugin := plugin }

def protocols (g : Gateway) : List ProtocolName := (Table.keys g.plugins).mergeSort fun a b => !b.before a

def stats (g : Gateway) : ManagerStats :=
  ⟨g.plugins.length, total (fun e => e.2.pending.length) g.plugins,
    g.interconnection.subscriptions.stats, g.counters⟩

/-! Counting -/

def countForwarded (g : Gateway) : Gateway :=
  { g with counters := { g.counters with forwarded := g.counters.forwarded + 1 } }

def countDropped (g : Gateway) : Gateway :=
  { g with counters := { g.counters with dropped := g.counters.dropped + 1 } }

def countFault (g : Gateway) : Gateway :=
  { g with counters := { g.counters with faults := g.counters.faults + 1 } }

def countUnmatched (g : Gateway) : Gateway :=
  { g with counters := { g.counters with unmatched := g.counters.unmatched + 1 } }

/-! Setting things in motion -/

def enqueue (g : Gateway) (t : Task) : Gateway := { g with tasks := g.tasks ++ [t] }

def forward (g : Gateway) (hop : Hop) : Gateway :=
  if g.isRunning then g.enqueue (.forward hop) else g.countDropped

/-- Puts a value into a plugin's sink. Its consumer is woken when it has nothing to do yet. -/
def send (g : Gateway) (p : ProtocolName) (parcel : Parcel Outbound Inbound) :
    Gateway × Except SinkError Unit :=
  match g.entry? p with
  | none => (g, .error .closed)
  | some e =>
    match e.sink.offer parcel with
    | .queued sink =>
      let g := g.updateEntry p fun e => { e with sink := sink }
      (if g.tasks.contains (.consume p) then g else g.enqueue (.consume p), .ok ())
    | .refused cause => (g, .error cause)
    | .waits => (g, .error (.notReady g.config.linkReady))

end Gateway

end ProtocolGateway
