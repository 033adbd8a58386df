import ProtocolGateway.Delivery.Sink

/-!
A sink in time. A send goes on in pieces, and anything may happen between them: it begins, it looks
for both ends to listen up to its deadline, and it queues its value. The state keeps every send with
how far it has come, the order in which values were queued and the order in which they were handed
over, so that the two can be compared after any history of events.
-/

namespace ProtocolGateway

/-- How a listener ends; whatever it is, the next value is handed over all the same. -/
inductive ListenerEnd where
  | done | failed | panicked
  deriving DecidableEq, Repr

/-- Names one send: its place among all sends. -/
abbrev SendTicket := Nat

inductive SendProgress where
  /-- Waits for both ends to listen and gives up at the deadline, in milliseconds. -/
  | waiting (deadline : Nat)
  /-- Found both ends listening and the sink open, and has not queued its value yet. -/
  | cleared
  | returned (r : Except SinkError Unit)

structure Send (α β : Type) where
  parcel : Parcel α β
  progress : SendProgress

structure HandedOver (α β : Type) where
  ticket : SendTicket
  parcel : Parcel α β
  ended : ListenerEnd
  deriving DecidableEq, Repr

namespace Parcel

variable {α β : Type}

def under (k : SendTicket) : Parcel α β → Parcel (SendTicket × α) (SendTicket × β)
  | .toB v => .toB (k, v)
  | .toA v => .toA (k, v)

def ticket : Parcel (SendTicket × α) (SendTicket × β) → SendTicket
  | .toB v => v.1
  | .toA v => v.1

def bare : Parcel (SendTicket × α) (SendTicket × β) → Parcel α β
  | .toB v => .toB v.2
  | .toA v => .toA v.2

end Parcel

structure TimedSink (α β : Type) where
  sink : Sink (SendTicket × α) (SendTicket × β)
  limit : Span
  /-- Milliseconds since the start. -/
  now : Nat
  sends : List (Send α β)
  /-- Sends by the order in which their values were queued. -/
  accepted : List SendTicket
  handedOver : List (HandedOver α β)
  /-- The consumer has met the closed sink and takes nothing any more. -/
  stopped : Bool

namespace TimedSink

variable {α β : Type}

def new (limit : Span) : TimedSink α β := ⟨.new, limit, 0, [], [], [], false⟩

def progress? (t : TimedSink α β) (k : SendTicket) : Option SendProgress :=
  (t.sends[k]?).map Send.progress

def result? (t : TimedSink α β) (k : SendTicket) : Option (Except SinkError Unit) :=
  match t.progress? k with
  | some (.returned r) => some r
  | _ => none

/-! The pieces of a send -/

def advance (t : TimedSink α β) (k : SendTicket) (progress : SendProgress) : TimedSink α β :=
  { t with sends := t.sends.modify k fun s => { s with progress := progress } }

/-- A send begins. Once the sink is closed it ends at once. -/
def call (t : TimedSink α β) (p : Parcel α β) : TimedSink α β :=
  let progress :=
    if t.sink.closed then .returned (.error .closed) else .waiting (t.now + t.limit.timerMillis)
  { t with sends := t.sends ++ [⟨p, progress⟩] }

/-- A waiting send looks for listeners: it goes on when both ends listen and the sink is open, and
gives up at its deadline. -/
def look (t : TimedSink α β) (k : SendTicket) : TimedSink α β :=
  match t.progress? k with
  | some (.waiting deadline) =>
    if t.sink.isReady then
      t.advance k (if t.sink.closed then .returned (.error .closed) else .cleared)
    else if deadline ≤ t.now then t.advance k (.returned (.error (.notReady t.limit)))
    else t
  | _ => t

def push (t : TimedSink α β) (k : SendTicket) : TimedSink α β :=
  match t.sends[k]? with
  | some ⟨p, .cleared⟩ =>
    if t.stopped then t.advance k (.returned (.error .closed))
    else
      { t with sink := t.sink.push (p.under k), accepted := t.accepted ++ [k] }.advance k
        (.returned (.ok ()))
  | _ => t

def wake (t : TimedSink α β) (k : SendTicket) : TimedSink α β := (t.look k).push k

def submit (t : TimedSink α β) (p : Parcel α β) : SendTicket × TimedSink α β :=
  (t.sends.length, (t.call p).wake t.sends.length)

def wakeAll (t : TimedSink α β) : TimedSink α β := (List.range t.sends.length).foldl wake t

/-! The consumer -/

/-- One round of the consumer: it hands the next value over to its listener, or stops when it finds
the sink closed. -/
def consume (t : TimedSink α β) (ended : ListenerEnd) : TimedSink α β :=
  match t.sink.next? with
  | some (p, sink) =>
    { t with sink := sink, handedOver := t.handedOver ++ [⟨p.ticket, p.bare, ended⟩] }
  | none => if t.sink.closed then { t with sink := { t.sink with queue := [] }, stopped := true } else t

def consumeAll (ended : Parcel α β → ListenerEnd) : (fuel : Nat) → TimedSink α β → TimedSink α β
  | 0, t => t
  | fuel + 1, t =>
    match t.sink.queue with
    | [] => t
    | p :: _ => consumeAll ended fuel (t.consume (ended p.bare))

def listen (t : TimedSink α β) (e : SinkEnd) : Except SinkError (TimedSink α β) :=
  (t.sink.listen e).map fun sink => { t with sink := sink }

def close (t : TimedSink α β) : TimedSink α β := { t with sink := t.sink.close }

def pass (t : TimedSink α β) (ms : Nat) : TimedSink α β := { t with now := t.now + ms }.wakeAll

def settle (t : TimedSink α β) (ended : Parcel α β → ListenerEnd) : TimedSink α β :=
  let t := t.wakeAll
  consumeAll ended t.sink.queue.length t

def join (t : TimedSink α β) (k : SendTicket) : TimedSink α β × Option (Except SinkError Unit) :=
  let t := match t.progress? k with
    | some (.waiting deadline) => t.pass (deadline - t.now)
    | _ => t
  (t, t.result? k)

/-! Histories -/

/-- Something that happens to a sink. Every piece of a send is an event of its own. -/
inductive SinkEvent (α β : Type) where
  | listen (e : SinkEnd)
  | call (p : Parcel α β)
  | look (k : SendTicket)
  | push (k : SendTicket)
  | consume (ended : ListenerEnd)
  | close
  /-- Time goes on, and nobody looks yet whether a deadline has come. -/
  | tick (ms : Nat)
  deriving DecidableEq, Repr

def step (t : TimedSink α β) : SinkEvent α β → TimedSink α β
  | .listen e =>
    match t.listen e with
    | .ok t => t
    | .error _ => t
  | .call p => t.call p
  | .look k => t.look k
  | .push k => t.push k
  | .consume ended => t.consume ended
  | .close => t.close
  | .tick ms => { t with now := t.now + ms }

def run (t : TimedSink α β) (events : List (SinkEvent α β)) : TimedSink α β := events.foldl step t

end TimedSink

end ProtocolGateway
