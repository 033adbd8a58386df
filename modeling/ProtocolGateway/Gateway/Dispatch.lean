import ProtocolGateway.Gateway.State

/-!
How envelopes travel. Every hop is checked against the pipeline's graph and counted; requests that
come out are handed to the plugin that serves them, and answers to everyone they are for.
-/

namespace ProtocolGateway

inductive DropReason where
  | foreign
  | noTransition
  /-- The manager takes requests after three hops, answers after three or four. -/
  | unexpected
  deriving DecidableEq, Repr

namespace Gateway

/-! Ends of exchanges -/

/-- Gives an exchange its outcome and says whether the caller was still waiting for it. -/
def conclude (g : Gateway) (t : Ticket) (r : Resolution) : Gateway × Bool :=
  match g.exchanges[t]? with
  | some .waiting => ({ g with exchanges := g.exchanges.set t (.resolved r) }, true)
  | _ => (g, false)

def release (g : Gateway) (p : ProtocolName) (s : Sequence) : Gateway :=
  g.updateEntry p fun e => { e with pending := Table.erase e.pending s }

/-- What a message means to the request that waits with a sequence; a request answers nothing. -/
def resolutionOf (m : Message) (s : Sequence) : Resolution :=
  match m with
  | .reply r => .reply (r.retagged s)
  | .error e => .error (e.retagged s)
  | .request _ => .dropped

def resolve (g : Gateway) (p : ProtocolName) (s : Sequence) (m : Message) : Gateway × Bool :=
  match (g.entry? p).bind fun e => Table.at? e.pending s with
  | none => (g.countUnmatched, false)
  | some t =>
    let (g, waited) := (g.release p s).conclude t (resolutionOf m s)
    if m.isReplyLike then (if waited then g else g.countUnmatched, true) else (g, false)

def resolveAll (g : Gateway) (p : ProtocolName) (m : Message) : List Sequence → Gateway × Bool
  | [] => (g, false)
  | s :: rest =>
    let (g, answered) := g.resolve p s m
    let (g, more) := g.resolveAll p m rest
    (g, answered || more)

/-! The manager's ends of the pipeline -/

def push (g : Gateway) (p : ProtocolName) (m : Message) : Gateway :=
  match m, g.entry? p with
  | .reply r, some e => if e.plugin.hasServer then (g.send p (.toB (.push r))).1 else g
  | _, _ => g

/-- Hands an answer to the subscribers of one protocol. Waiting requests come first: when one of them
takes the answer, the standing subscriber gets no push. -/
def answerProtocol (g : Gateway) (m : Message) (p : ProtocolName) (subscribers : List Subscriber) :
    Gateway :=
  if (g.entry? p).isNone then g
  else
    let (g, answered) := g.resolveAll p m (subscribers.filterMap Subscriber.sequence?)
    if answered then g
    else (subscribers.filter fun s => !s.isOnce).foldl (fun g _ => g.push p m) g

def fanOut (g : Gateway) (e : Envelope) : Gateway × StageResult :=
  match guarded (e.replyTo g.keys.main), guarded (e.message g.keys.main) with
  | .error h, _ | .ok _, .error h => (g, .error h)
  | .ok replyTo, .ok m =>
    ((replyTo.getD []).foldl (fun g r => g.answerProtocol m r.1 r.2) g, .ok none)

def readDelivery (main : Token) (e : Envelope) : Except Halt (Request × ProtocolName) := do
  match ← guarded (e.target main) with
  | none => halt .missingTarget
  | some target =>
    match ← guarded (e.message main) with
    | .request r => .ok (r, target)
    | m => halt (.unexpectedMessage .manager .interconnection m.kind)

def hand (g : Gateway) (r : Request) (target : ProtocolName) : Gateway × Except String Unit :=
  match g.entry? target with
  | none => (g, .error "no plugin registered")
  | some e =>
    if e.plugin.hasClient then
      match g.send target (.toB (.request r)) with
      | (g, .ok ()) => (g, .ok ())
      | (g, .error cause) => (g, .error cause.message)
    else (g, .error "plugin has no client side")

/-- The answer that the gateway itself gives for a target that cannot be reached. -/
def unavailable (r : Request) (target : ProtocolName) (detail : String) : ErrorReply :=
  (ErrorReply.forRequest r .unavailablePlugin).withDetail (target.text ++ ": " ++ detail)

def deliver (g : Gateway) (e : Envelope) : Gateway × StageResult :=
  match readDelivery g.keys.main e with
  | .error h => (g, .error h)
  | .ok (r, target) =>
    match g.hand r target with
    | (g, .ok ()) => (g, .ok none)
    | (g, .error detail) =>
      let m := Message.error (unavailable r target detail)
      (g, .ok (some ⟨.manager, .interconnection, g.keys.wrap m target⟩))

def receive (g : Gateway) (source : Stage) (e : Envelope) : Gateway × StageResult :=
  match source with
  | .interconnection => g.deliver e
  | .output => g.fanOut e
  | .manager | .input => (g, halt (.unexpectedSource .manager source))

/-! Hops -/

def isExpected (source : Stage) (hops : Nat) (kind : MessageKind) : Bool :=
  match source with
  | .interconnection => hops == 3 && kind == .request
  | .output => (hops == 3 || hops == 4) && kind != .request
  | .manager | .input => false

def checkHop (g : Gateway) (hop : Hop) : Except DropReason Envelope :=
  match hop.envelope.pass g.keys.main with
  | .error _ => .error .foreign
  | .ok e =>
    if !hop.source.canForward hop.target then .error .noTransition
    else if hop.target = .manager && !isExpected hop.source e.hops e.content.kind then
      .error .unexpected
    else .ok e

def receiveAt (g : Gateway) (hop : Hop) (e : Envelope) : Gateway × StageResult :=
  match hop.target with
  | .input => (g, InputStage.receive g.keys.input hop.source e)
  | .output => (g, OutputStage.receive g.keys.output hop.source e)
  | .interconnection =>
    let (ic, r) := g.interconnection.receive g.instant hop.source e
    ({ g with interconnection := ic }, r)
  | .manager => g.receive hop.source e

/-- Sends on what a stage made of an envelope. A stage that breaks off is not counted. -/
def follow (g : Gateway) : StageResult → Gateway
  | .ok none => g
  | .ok (some hop) => g.forward hop
  | .error (.fault _) => g.countFault
  | .error .clockOverflow => g

def dispatch (g : Gateway) (hop : Hop) : Gateway :=
  match g.checkHop hop with
  | .error _ => g.countDropped
  | .ok e =>
    let (g, r) := g.countForwarded.receiveAt hop e
    g.follow r

/-! What comes out of a sink -/

def accept (g : Gateway) (p : ProtocolName) : Inbound → Gateway
  | .request r => g.forward ⟨.manager, .input, g.keys.wrap (.request r) p⟩
  | .answer m => g.forward ⟨.manager, .interconnection, g.keys.wrap m p⟩

def handOver (g : Gateway) (p : ProtocolName) : Parcel Outbound Inbound → Gateway
  | .toA inbound => if g.phase = .gone then g else g.accept p inbound
  | .toB (.request r) =>
    match g.entry? p with
    | none => g
    | some e =>
      let (plugin, messages) := e.plugin.handleRequest r
      let g := g.setPlugin p plugin
      if messages.isEmpty then g else g.enqueue (.respond p messages)
  | .toB (.push r) =>
    match g.entry? p with
    | none => g
    | some e => g.setPlugin p (e.plugin.handleReply r)

end Gateway

end ProtocolGateway
