import ProtocolGateway.Gateway.Dispatch

/-!
What plugins and callers do with the gateway: submit requests, send answers, and wait for outcomes.
-/

namespace ProtocolGateway

def SinkError.asLinkError : SinkError → LinkError
  | .notReady _ => .notReady
  | .alreadySet | .closed => .closed

namespace Gateway

/-! Requests -/

def admission (g : Gateway) : Except LinkError Unit :=
  match g.phase with
  | .running => .ok ()
  | .created => .error .notReady
  | .stopped | .gone => .error .closed

/-- Notes that a request waits. One that waited with the same sequence waits no more. -/
def await (g : Gateway) (p : ProtocolName) (s : Sequence) : Ticket × Gateway :=
  let ticket := g.exchanges.length
  let g := { g with exchanges := g.exchanges ++ [Exchange.waiting] }
  let g := match (g.entry? p).bind fun e => Table.at? e.pending s with
    | some old => (g.conclude old .dropped).1
    | none => g
  (ticket, g.updateEntry p fun e => { e with pending := Table.put s ticket e.pending })

/-- Submits a request over the request link of a registered plugin. A sequence is used up even when
the request cannot take it. -/
def submit (g : Gateway) (p : ProtocolName) (r : Request) :
    Gateway × Except LinkError (Sequence × Ticket) :=
  match g.admission with
  | .error e => (g, .error e)
  | .ok () =>
    let (s, sequencer) := g.sequencer.next r.headers.operation
    let g := { g with sequencer := sequencer }
    match r.assignSequence s with
    | .error cause => (g, .error (.protocol cause))
    | .ok r =>
      let (ticket, g) := g.await p s
      match g.send p (.toA (.request r)) with
      | (g, .ok ()) => (g, .ok (s, ticket))
      | (g, .error cause) => ((g.release p s).conclude ticket .dropped |>.1, .error cause.asLinkError)

/-! Answers -/

def reply (g : Gateway) (p : ProtocolName) (m : Message) : Gateway × Except LinkError Unit :=
  match g.send p (.toA (.answer m)) with
  | (g, .ok ()) => (g, .ok ())
  | (g, .error cause) => (g, .error cause.asLinkError)

/-- A memory target changes a resource by itself and tells its observers. -/
def notify (g : Gateway) (p : ProtocolName) (authority path : String) (content : Octets) :
    Gateway × Except LinkError Unit :=
  match (g.entry? p).map PluginEntry.plugin with
  | some (.target t) =>
    let (t, r) := t.notify authority path content
    let g := g.setPlugin p (.target t)
    match r with
    | .ok notification => g.reply p (.reply notification)
    | .error e => (g, .error e)
  | _ => (g, .error .notReady)

/-! Outcomes -/

def abandon (g : Gateway) (t : Ticket) : Gateway :=
  match g.exchanges[t]? with
  | some .waiting => { g with exchanges := g.exchanges.set t .abandoned }
  | _ => g

def pass (g : Gateway) (ms : Nat) : Gateway := { g with now := g.now + ms }

/-- Waits for an outcome while nothing else happens: it is there already or does not come in time. -/
def wait (g : Gateway) (t : Ticket) (limit : Span) : Gateway × Except LinkError Reply :=
  match g.exchanges[t]? with
  | some (.resolved r) => (g, r.outcome)
  | some .waiting | some .abandoned | none =>
    ((g.abandon t).pass limit.timerMillis, .error (.timeout limit))

end Gateway

end ProtocolGateway
