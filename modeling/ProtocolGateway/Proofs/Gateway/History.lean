import Mathlib
import ProtocolGateway.Gateway.Lifecycle
import ProtocolGateway.Gateway.Run
import ProtocolGateway.Proofs.Routing.Waiting

/-!
Histories of a gateway: every order in which it can be set up, used from outside and run inside,
with a log of what matters to the requests on the way.
-/

namespace ProtocolGateway

/-- A request that was accepted, as it was submitted, with its number and its ticket. -/
structure Acceptance where
  protocol : ProtocolName
  request : Request
  sequence : Sequence
  ticket : Ticket
  deriving DecidableEq

namespace Acceptance

def sealed (a : Acceptance) : Request :=
  ⟨a.sequence, a.request.headers.freeze, a.request.payload.freeze⟩

def path (a : Acceptance) : String := a.request.headers.path

def operation (a : Acceptance) : Operation := a.request.headers.operation

end Acceptance

/-- Anything that can happen to a gateway. Plugins may change by themselves at any time. -/
inductive Move where
  | register (plugin : Plugin)
  | start
  | stop
  | letGo
  | become (p : ProtocolName) (plugin : Plugin)
  | event (e : Gateway.Event)
  deriving DecidableEq

inductive Note where
  | accepted (a : Acceptance)
  /-- A number was given out, whether it came to be used or not. -/
  | drew (s : Sequence)
  /-- A number was given out under which an older request of the plugin still waits. -/
  | cameRound (p : ProtocolName) (s : Sequence)
  /-- The interconnection stage took in a message from a protocol. -/
  | crossed (p : ProtocolName) (m : Message)
  /-- The cache broke off. -/
  | brokeOff
  /-- An answer was for a request that does not wait. -/
  | missed (p : ProtocolName) (s : Sequence)
  deriving DecidableEq

namespace Gateway

def move (g : Gateway) : Move → Gateway
  | .register plugin =>
    match g.register plugin with
    | .ok g => g
    | .error _ => g
  | .start => g.start.1
  | .stop => g.stop.1
  | .letGo => g.letGo
  | .become p plugin => g.setPlugin p plugin
  | .event e => g.step e

def pendingOf (g : Gateway) (p : ProtocolName) : Table Sequence Ticket :=
  ((g.entry? p).map PluginEntry.pending).getD []

def pending? (g : Gateway) (p : ProtocolName) (s : Sequence) : Option Ticket :=
  (g.entry? p).bind fun e => Table.at? e.pending s

/-! The log -/

def submitNotes (g : Gateway) (p : ProtocolName) (r : Request) : List Note :=
  let s := (g.sequencer.next r.headers.operation).1
  match g.admission, r.assignSequence s with
  | .error _, _ => []
  | .ok (), .error _ => [.drew s]
  | .ok (), .ok _ =>
    .drew s :: (if (g.pending? p s).isSome then [.cameRound p s] else []) ++
      match (g.submit p r).2 with
      | .ok (_, ticket) => [.accepted ⟨p, r, s, ticket⟩]
      | .error _ => []

def missedBy (g : Gateway) (p : ProtocolName) (m : Message) : List Sequence → List Note
  | [] => []
  | s :: rest =>
    (if (g.pending? p s).isNone then [.missed p s] else []) ++ (g.resolve p s m).1.missedBy p m rest

def missed (g : Gateway) (m : Message) : ReplyTo → List Note
  | [] => []
  | (p, subscribers) :: rest =>
    g.missedBy p m (subscribers.filterMap Subscriber.sequence?) ++
      (g.answerProtocol m p subscribers).missed m rest

def breakNotes : StageResult → List Note
  | .error .clockOverflow => [.brokeOff]
  | _ => []

def hopNotes (g : Gateway) (hop : Hop) (e : Envelope) : List Note :=
  match hop.source, hop.target with
  | .output, .manager => g.missed e.content (e.replyList.getD [])
  | source, .interconnection =>
    (match e.sourceProtocol with
      | some p => [.crossed p e.content]
      | none => []) ++ breakNotes (g.interconnection.receive g.instant source e).2
  | _, _ => []

def taskNotes (g : Gateway) : Task → List Note
  | .forward hop =>
    match g.checkHop hop with
    | .ok e => g.hopNotes hop e
    | .error _ => []
  | .consume _ | .respond .. => []

def notes (g : Gateway) : Move → List Note
  | .event (.submit p r) => g.submitNotes p r
  | .event (.run i) =>
    match g.tasks[i]? with
    | some t => g.taskNotes t
    | none => []
  | _ => []

theorem notes_run (g : Gateway) (i : Nat) :
    g.notes (.event (.run i)) = (g.tasks[i]?).elim [] g.taskNotes := by
  dsimp only [notes]
  cases g.tasks[i]? with
  | none => rfl
  | some t => rfl

end Gateway

/-! Runs -/

structure History where
  gateway : Gateway
  log : List Note

namespace History

def next (h : History) (m : Move) : History := ⟨h.gateway.move m, h.log ++ h.gateway.notes m⟩

def run (config : ManagerConfig) (cache : ReplyCache) (moves : List Move) : History :=
  moves.foldl next ⟨.new config cache, []⟩

end History

def submissions (observes : Bool) (moves : List Move) : Nat :=
  moves.countP fun
    | .event (.submit _ r) => r.headers.operation.isObserveFamily == observes
    | _ => false

def Resolution.sequence? : Resolution → Option Sequence
  | .reply r => some r.sequence
  | .error e => some e.sequence
  | .dropped => none

/-! Where a request is held -/

namespace Gateway

def queued (g : Gateway) (p : ProtocolName) (s : Sequence) : Nat :=
  match g.entry? p with
  | some e => e.sink.queue.countP fun
    | .toA (.request r) => r.sequence == s
    | _ => false
  | none => 0

/-- How often a hop carries it: as a request on the way in, or by a list of receivers on the way
out. -/
def carried (p : ProtocolName) (s : Sequence) : Task → Nat
  | .forward hop =>
    match hop.source, hop.target with
    | .manager, .input | .input, .interconnection =>
      match hop.envelope.content with
      | .request r => if hop.envelope.sourceProtocol = some p ∧ r.sequence = s then 1 else 0
      | _ => 0
    | .interconnection, .output | .output, .manager =>
      listed (hop.envelope.replyList.getD []) p s
    | _, _ => 0
  | .consume _ | .respond .. => 0

/-- In how many places a request is held. -/
def held (g : Gateway) (p : ProtocolName) (s : Sequence) : Nat :=
  g.queued p s + total (carried p s) g.tasks + g.interconnection.subscriptions.registered p s

end Gateway

end ProtocolGateway
