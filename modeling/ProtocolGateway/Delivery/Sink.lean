import ProtocolGateway.Span
import ProtocolGateway.Text.Quoted

/-!
Sinks. A sink joins two ends. What one end sends is handed to the listener of the other, and one
queue holds the values of both directions in the order they were sent. Nothing is queued before both
ends listen, and nothing is handed over after the sink is closed.
-/

namespace ProtocolGateway

inductive SinkError where
  /-- Both ends were not listening in time. -/
  | notReady (after : Span)
  | alreadySet
  | closed
  deriving DecidableEq, Repr

namespace SinkError

def name : SinkError → String
  | .notReady _ => "NotReady"
  | .alreadySet => "AlreadySet"
  | .closed => "Closed"

def message : SinkError → String
  | .notReady after => "Sink not ready after " ++ after.text
  | .alreadySet => "Listener already set"
  | .closed => "Sink closed"

end SinkError

inductive SinkEnd where
  | a | b
  deriving DecidableEq, Repr

inductive Parcel (α β : Type) where
  | toB (value : α)
  | toA (value : β)
  deriving DecidableEq, Repr

def Parcel.goal {α β : Type} : Parcel α β → SinkEnd
  | .toB _ => .b
  | .toA _ => .a

/-- A sink whose first end sends `α` and whose second end sends `β`. -/
structure Sink (α β : Type) where
  listeningA : Bool
  listeningB : Bool
  closed : Bool
  queue : List (Parcel α β)
  deriving DecidableEq, Repr

namespace Sink

variable {α β : Type}

def new : Sink α β := ⟨false, false, false, []⟩

def wired : Sink α β := ⟨true, true, false, []⟩

def isListening (s : Sink α β) : SinkEnd → Bool
  | .a => s.listeningA
  | .b => s.listeningB

def listen (s : Sink α β) (e : SinkEnd) : Except SinkError (Sink α β) :=
  if s.isListening e then .error .alreadySet
  else match e with
    | .a => .ok { s with listeningA := true }
    | .b => .ok { s with listeningB := true }

def isReady (s : Sink α β) : Bool := s.listeningA && s.listeningB

def push (s : Sink α β) (p : Parcel α β) : Sink α β := { s with queue := s.queue ++ [p] }

inductive Offer (α β : Type) where
  | queued (s : Sink α β)
  | refused (e : SinkError)
  /-- The sender has to wait until both ends listen. -/
  | waits

def offer (s : Sink α β) (p : Parcel α β) : Offer α β :=
  if s.closed then .refused .closed else if s.isReady then .queued (s.push p) else .waits

def next? (s : Sink α β) : Option (Parcel α β × Sink α β) :=
  if s.closed then none
  else match s.queue with
    | [] => none
    | p :: rest => some (p, { s with queue := rest })

def close (s : Sink α β) : Sink α β := { s with closed := true }

def text (s : Sink α β) (name : String) (e : SinkEnd) : String :=
  "Link \x7b sink: " ++ Text.quoted name ++ ", listener_set: " ++ toString (s.isListening e) ++
    ", closed: " ++ toString s.closed ++ " \x7d"

end Sink

end ProtocolGateway
