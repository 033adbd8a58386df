import ProtocolGateway.Message.Message

/-!
Correlation numbers. Two ranges share the 32-bit words without zero: one for plain exchanges, one
for observations. Each range wraps back to its own start.
-/

namespace ProtocolGateway

namespace Sequence

def normalStart : Sequence := 1
def normalEnd : Sequence := 0x7FFFFFFF
def observeStart : Sequence := 0x80000000
def observeEnd : Sequence := 0xFFFFFFFF

def isObserve (s : Sequence) : Bool := s ≥ observeStart

def isNormal (s : Sequence) : Bool := normalStart ≤ s && s ≤ normalEnd

def following (start last s : Sequence) : Sequence := if s ≥ last then start else s + 1

end Sequence

structure Sequencer where
  normal : Sequence
  observe : Sequence
  deriving DecidableEq, Repr

namespace Sequencer

open Sequence

/-- Starts at the given numbers; one outside its range is moved to the range's start. -/
def startingAt (normal observe : Sequence) : Sequencer :=
  ⟨if isNormal normal then normal else normalStart,
    if isObserve observe then observe else observeStart⟩

def new : Sequencer := startingAt normalStart observeStart

def nextNormal (q : Sequencer) : Sequence × Sequencer :=
  (q.normal, { q with normal := following normalStart normalEnd q.normal })

def nextObserve (q : Sequencer) : Sequence × Sequencer :=
  (q.observe, { q with observe := following observeStart observeEnd q.observe })

def next (q : Sequencer) (o : Operation) : Sequence × Sequencer :=
  if o.isObserveFamily then q.nextObserve else q.nextNormal

end Sequencer

end ProtocolGateway
