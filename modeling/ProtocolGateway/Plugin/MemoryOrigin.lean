import ProtocolGateway.Plugin.Link

/-! An origin that submits requests from code and collects the notifications it gets. -/

namespace ProtocolGateway

structure MemoryOrigin where
  protocol : ProtocolName
  settings : Settings
  /-- Whether a request link is set. -/
  linked : Bool
  /-- Notifications that nobody has taken yet. -/
  pushed : List Reply
  /-- Notifications received in all. -/
  count : Nat
  deriving DecidableEq, Repr

namespace MemoryOrigin

def new (protocol : ProtocolName) : MemoryOrigin := ⟨protocol, .empty, false, [], 0⟩

def handleReply (o : MemoryOrigin) (r : Reply) : MemoryOrigin :=
  { o with pushed := o.pushed ++ [r], count := o.count + 1 }

def nextPushed (o : MemoryOrigin) (timeout : Span) : MemoryOrigin × Option Reply × Nat :=
  match o.pushed with
  | r :: rest => ({ o with pushed := rest }, some r, 0)
  | [] => (o, none, timeout.timerMillis)

end MemoryOrigin

end ProtocolGateway
