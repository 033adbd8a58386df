import ProtocolGateway.Gateway.Links

/-!
How a gateway runs. Any task may be the next to happen; running always the first one is the order in
which things were set in motion.
-/

namespace ProtocolGateway

namespace Gateway

def enqueueFirst (g : Gateway) (t : Task) : Gateway := { g with tasks := t :: g.tasks }

def consume (g : Gateway) (p : ProtocolName) : Gateway :=
  match (g.entry? p).bind (·.sink.next?) with
  | none => g
  | some (parcel, sink) =>
    let g := (g.updateEntry p fun e => { e with sink := sink }).handOver p parcel
    if sink.queue.isEmpty then g else g.enqueueFirst (.consume p)

/-- A plugin sends its next message; after a refusal it sends no more. -/
def respond (g : Gateway) (p : ProtocolName) : List Message → Gateway
  | [] => g
  | m :: rest =>
    match g.reply p m with
    | (g, .error _) => g
    | (g, .ok ()) => if rest.isEmpty then g else g.enqueueFirst (.respond p rest)

def perform (g : Gateway) : Task → Gateway
  | .consume p => g.consume p
  | .forward hop => g.dispatch hop
  | .respond p messages => g.respond p messages

def runTask (g : Gateway) (i : Nat) : Gateway :=
  match g.tasks[i]? with
  | none => g
  | some t => { g with tasks := g.tasks.eraseIdx i }.perform t

/-! Settling -/

def receivers : Task → Nat
  | .forward hop => total (fun r => r.2.length) (hop.envelope.replyList.getD [])
  | .consume _ | .respond .. => 0

/-- Steps enough for everything that is under way to come to its end: a value takes three hops out
and three back for each of two answers, and pushes at most one value to each plugin. -/
def stepsToRest (g : Gateway) : Nat :=
  let values := g.tasks.length + total (fun e => e.2.sink.queue.length) g.plugins
  let width := g.plugins.length + total receivers g.tasks
  values * (20 + 4 * width)

def runFirst : (fuel : Nat) → Gateway → Gateway
  | 0, g => g
  | fuel + 1, g => if g.tasks.isEmpty then g else runFirst fuel (g.runTask 0)

def settle (g : Gateway) : Gateway := runFirst g.stepsToRest g

/-! Histories -/

/-- Something that happens to a gateway from outside, or a task that happens inside. -/
inductive Event where
  | submit (p : ProtocolName) (r : Request)
  | reply (p : ProtocolName) (m : Message)
  | notify (p : ProtocolName) (authority path : String) (content : Octets)
  | abandon (t : Ticket)
  | run (task : Nat)
  | pass (ms : Nat)
  deriving DecidableEq, Repr

def step (g : Gateway) : Event → Gateway
  | .submit p r => (g.submit p r).1
  | .reply p m => (g.reply p m).1
  | .notify p authority path content => (g.notify p authority path content).1
  | .abandon t => g.abandon t
  | .run i => g.runTask i
  | .pass ms => g.pass ms

def runAll (g : Gateway) (events : List Event) : Gateway := events.foldl step g

end Gateway

end ProtocolGateway
