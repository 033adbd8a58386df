import ProtocolGateway.Gateway.Lifecycle

/-!
A gateway in service. A call that starts or stops it goes on in pieces: it attends to the plugins
one by one, in any order, and each plugin takes its own step when it comes to it. A plugin sends a
request in two pieces: the request is on record as waiting before the sink takes it. Whatever else
can happen to a gateway may happen between two pieces. The next call to register a plugin, to start
or to stop is made when the one before has returned.
-/

namespace ProtocolGateway

/-- A request that is on record as waiting and that the sink of its plugin has yet to take. -/
structure Sending where
  protocol : ProtocolName
  sequence : Sequence
  ticket : Ticket
  request : Request
  deriving DecidableEq, Repr

namespace Gateway

/-! Pieces of a plugin's sending -/

def beginSend (g : Gateway) (p : ProtocolName) (r : Request) :
    Gateway × Except LinkError Sending :=
  match g.admission with
  | .error e => (g, .error e)
  | .ok () =>
    let (s, sequencer) := g.sequencer.next r.headers.operation
    let g := { g with sequencer := sequencer }
    match r.assignSequence s with
    | .error cause => (g, .error (.protocol cause))
    | .ok r =>
      let (ticket, g) := g.await p s
      (g, .ok ⟨p, s, ticket, r⟩)

/-- The sink has refused a request, which is taken off the record. Whoever waits under its number by
now waits no more. -/
def giveUp (g : Gateway) (x : Sending) : Gateway :=
  let g := match (g.entry? x.protocol).bind fun e => Table.at? e.pending x.sequence with
    | some t => (g.conclude t .dropped).1
    | none => g
  ((g.release x.protocol x.sequence).conclude x.ticket .dropped).1

def endSend (g : Gateway) (x : Sending) : Gateway × Except LinkError (Sequence × Ticket) :=
  match g.send x.protocol (.toA (.request x.request)) with
  | (g, .ok ()) => (g, .ok (x.sequence, x.ticket))
  | (g, .error cause) => (g.giveUp x, .error cause.asLinkError)

/-! Pieces of a call -/

def lockOne (g : Gateway) (p : ProtocolName) : Except ManagerError Gateway :=
  match g.entry? p with
  | none => .ok g
  | some e =>
    match e.plugin.settings.lock with
    | .error cause => .error (.plugin p (.settings cause))
    | .ok settings => .ok (g.setPlugin p (e.plugin.withSettings settings))

def advanceOne (step : Plugin → Plugin × Except PluginError Unit) (g : Gateway) (p : ProtocolName) :
    Gateway × Except PluginError Unit :=
  match g.entry? p with
  | none => (g, .ok ())
  | some e => (g.setPlugin p (step e.plugin).1, (step e.plugin).2)

def closeOne (g : Gateway) (p : ProtocolName) : Gateway :=
  g.updateEntry p fun e => { e with sink := e.sink.close }

def clearOne (g : Gateway) (p : ProtocolName) : Gateway :=
  let tickets := ((g.entry? p).map fun e => e.pending.map (·.2)).getD []
  (tickets.foldl (fun g t => (g.conclude t .dropped).1) g).updateEntry p fun e =>
    { e with pending := [] }

end Gateway

inductive CallStage where
  /-- The settings are being locked. -/
  | locking
  /-- The plugins are starting. -/
  | starting
  /-- The sinks are being closed. -/
  | closing
  /-- The plugins are stopping. -/
  | stopping
  /-- The requests that wait are being dropped. -/
  | clearing
  deriving DecidableEq, Repr

structure LifeCall where
  stage : CallStage
  /-- The order in which the call looks at what became of the plugins. -/
  order : List ProtocolName
  /-- Plugins that this stage has not attended to. -/
  left : List ProtocolName
  /-- Plugins that failed their step. -/
  failures : Table ProtocolName PluginError
  /-- Why a start came to stop the gateway. -/
  cause : Option ManagerError
  deriving DecidableEq, Repr

namespace LifeCall

def without (c : LifeCall) (p : ProtocolName) : LifeCall := { c with left := c.left.erase p }

def tookStep (c : LifeCall) (p : ProtocolName) (failure : Option PluginError) : LifeCall :=
  { c with
    left := c.left.erase p
    failures := c.failures ++ failure.toList.map fun e => (p, e) }

end LifeCall

inductive Notice where
  | registered (p : ProtocolName)
  | notRegistered (e : ManagerError)
  /-- A start was refused before any plugin was started. -/
  | notStarted (e : ManagerError)
  /-- A plugin took its step of a start, and failed or not. -/
  | pluginStarted (p : ProtocolName) (failure : Option PluginError)
  | pluginStopped (p : ProtocolName) (failure : Option PluginError)
  | startReturned (failure : Option ManagerError)
  | stopReturned (failure : Option ManagerError)
  /-- The client side of a plugin was called with a request. -/
  | requestHandled (p : ProtocolName) (r : Request)
  /-- The server side of a plugin was called with a reply. -/
  | replyHandled (p : ProtocolName) (r : Reply)
  deriving DecidableEq, Repr

structure Service where
  gateway : Gateway
  /-- Requests that plugins have begun to send. -/
  sending : List Sending
  /-- The call under way. -/
  call : Option LifeCall
  log : List Notice
  deriving DecidableEq, Repr

inductive Happening where
  | register (plugin : Plugin)
  /-- A call to start, which looks at what became of the plugins in some order. -/
  | start (order : List ProtocolName)
  | stop (order : List ProtocolName)
  /-- The call under way attends to a plugin, or the plugin takes the step that it waits for. -/
  | attend (p : ProtocolName)
  /-- The call under way has attended to all plugins and goes on. -/
  | turn
  /-- A plugin changes by itself. -/
  | become (p : ProtocolName) (plugin : Plugin)
  /-- A plugin begins to send a request. -/
  | beginSend (p : ProtocolName) (r : Request)
  /-- A plugin goes on to send a request that it began to send. -/
  | endSend (sending : Nat)
  | event (e : Gateway.Event)
  deriving DecidableEq, Repr

def Gateway.handled (g : Gateway) : Event → List Notice
  | .run i =>
    match g.tasks[i]? with
    | some (.consume p) =>
      match (g.entry? p).bind (·.sink.next?) with
      | some (.toB (.request r), _) => [.requestHandled p r]
      | some (.toB (.push r), _) => [.replyHandled p r]
      | _ => []
    | _ => []
  | _ => []

namespace Service

def new (config : ManagerConfig) (cache : ReplyCache) : Service := ⟨.new config cache, [], none, []⟩

def failureOf {α ε : Type} : Except ε α → Option ε
  | .ok _ => none
  | .error e => some e

/-- The failure that a call reports: that of the first plugin in its order. -/
def verdict (order : List ProtocolName) (failures : Table ProtocolName PluginError) :
    Option ManagerError :=
  order.findSome? fun p => (Table.at? failures p).map (.plugin p)

def returns (s : Service) (n : Notice) : Service := { s with call := none, log := s.log ++ [n] }

def enter (s : Service) (stage : CallStage) (order : List ProtocolName)
    (failures : Table ProtocolName PluginError) (cause : Option ManagerError) : Service :=
  { s with call := some ⟨stage, order, order, failures, cause⟩ }

/-- What is told when the gateway has been stopped: a start that failed returns its cause, a stop
what failed while it stopped. -/
def ending (cause : Option ManagerError) (failure : Option ManagerError) : Notice :=
  match cause with
  | some e => .startReturned (some e)
  | none => .stopReturned failure

def halt (s : Service) (order : List ProtocolName) (cause : Option ManagerError) : Service :=
  if s.gateway.phase = .stopped then s.returns (ending cause none)
  else { s with gateway := { s.gateway with phase := .stopped } }.enter .closing order [] cause

def start (s : Service) (order : List ProtocolName) : Service :=
  if s.gateway.phase = .created then s.enter .locking order [] none
  else s.returns (.notStarted (.invalidState s.gateway.phase))

def register (s : Service) (plugin : Plugin) : Service :=
  match s.gateway.register plugin with
  | .ok g => { s with gateway := g, log := s.log ++ [.registered plugin.protocol] }
  | .error e => { s with log := s.log ++ [.notRegistered e] }

def attend (s : Service) (c : LifeCall) (p : ProtocolName) : Service :=
  match c.stage with
  | .locking =>
    match s.gateway.lockOne p with
    | .error e => s.returns (.notStarted e)
    | .ok g => { s with gateway := g, call := some (c.without p) }
  | .starting =>
    let (g, r) := s.gateway.advanceOne Plugin.start p
    { s with
      gateway := g
      call := some (c.tookStep p (failureOf r))
      log := s.log ++ [.pluginStarted p (failureOf r)] }
  | .closing => { s with gateway := s.gateway.closeOne p, call := some (c.without p) }
  | .stopping =>
    let (g, r) := s.gateway.advanceOne Plugin.stop p
    { s with
      gateway := g
      call := some (c.tookStep p (failureOf r))
      log := s.log ++ [.pluginStopped p (failureOf r)] }
  | .clearing => { s with gateway := s.gateway.clearOne p, call := some (c.without p) }

def turn (s : Service) (c : LifeCall) : Service :=
  match c.stage with
  | .locking =>
    if s.gateway.phase = .created then
      { s with gateway := { s.gateway with phase := .running } }.enter .starting c.order [] none
    else s.returns (.notStarted (.invalidState s.gateway.phase))
  | .starting =>
    match verdict c.order c.failures with
    | none => s.returns (.startReturned none)
    | some e => s.halt c.order (some e)
  | .closing => s.enter .stopping c.order [] c.cause
  | .stopping => s.enter .clearing c.order c.failures c.cause
  | .clearing => s.returns (ending c.cause (verdict c.order c.failures))

def beginSend (s : Service) (p : ProtocolName) (r : Request) : Service :=
  match s.gateway.beginSend p r with
  | (g, .ok x) => { s with gateway := g, sending := s.sending ++ [x] }
  | (g, .error _) => { s with gateway := g }

def Free (s : Service) (order : List ProtocolName) : Prop :=
  s.call = none ∧ order.Perm (Table.keys s.gateway.plugins)

instance (s : Service) (order : List ProtocolName) : Decidable (s.Free order) :=
  inferInstanceAs (Decidable (_ ∧ _))

def next (s : Service) : Happening → Service
  | .register plugin => if s.call = none then s.register plugin else s
  | .start order => if s.Free order then s.start order else s
  | .stop order => if s.Free order then s.halt order none else s
  | .attend p =>
    match s.call with
    | some c => if p ∈ c.left then s.attend c p else s
    | none => s
  | .turn =>
    match s.call with
    | some c => if c.left = [] then s.turn c else s
    | none => s
  | .become p plugin => { s with gateway := s.gateway.setPlugin p plugin }
  | .beginSend p r => if (s.gateway.entry? p).isSome then s.beginSend p r else s
  | .endSend i =>
    match s.sending[i]? with
    | some x => { s with gateway := (s.gateway.endSend x).1, sending := s.sending.eraseIdx i }
    | none => s
  | .event e => { s with gateway := s.gateway.step e, log := s.log ++ s.gateway.handled e }

def run (s : Service) (xs : List Happening) : Service := xs.foldl next s

end Service

end ProtocolGateway
