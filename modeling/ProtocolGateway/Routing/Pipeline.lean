import ProtocolGateway.Routing.Envelope

/-! The stages of the pipeline, which of them may hand an envelope to which, and what can go wrong. -/

namespace ProtocolGateway

inductive Stage where
  | manager | input | interconnection | output
  deriving DecidableEq, Repr

namespace Stage

def all : List Stage := [.manager, .input, .interconnection, .output]

def name : Stage → String
  | .manager => "communication-manager"
  | .input => "input-controller"
  | .interconnection => "interconnection-controller"
  | .output => "output-controller"

def ofName? (s : String) : Option Stage := all.find? fun b => b.name == s

def successors : Stage → List Stage
  | .manager => [.input, .interconnection]
  | .input => [.interconnection]
  | .interconnection => [.manager, .output]
  | .output => [.manager]

def canForward (source target : Stage) : Bool := source.successors.contains target

end Stage

inductive RoutingError where
  | noSubscription (subject : String)
  | envelope (cause : EnvelopeError)
  | unexpectedMessage (stage source : Stage) (kind : MessageKind)
  | unexpectedSource (stage source : Stage)
  | missingSource
  | missingTarget
  | unsequenced
  | invalidReplyUri (cause : ProtocolError)
  deriving DecidableEq, Repr

namespace RoutingError

def name : RoutingError → String
  | .noSubscription _ => "NoSubscription"
  | .envelope _ => "Envelope"
  | .unexpectedMessage .. => "UnexpectedMessage"
  | .unexpectedSource .. => "UnexpectedSource"
  | .missingSource => "MissingSource"
  | .missingTarget => "MissingTarget"
  | .unsequenced => "Unsequenced"
  | .invalidReplyUri _ => "InvalidReplyUri"

def message : RoutingError → String
  | .noSubscription subject => "No subscription for " ++ subject
  | .envelope cause => "Envelope access failed: " ++ cause.message
  | .unexpectedMessage stage source kind =>
    stage.name ++ " cannot handle " ++ kind.name ++ " from " ++ source.name
  | .unexpectedSource stage source => stage.name ++ " does not accept envelopes from " ++ source.name
  | .missingSource => "Envelope has no source protocol"
  | .missingTarget => "Envelope has no target protocol"
  | .unsequenced => "Request is not sequenced"
  | .invalidReplyUri cause => "Invalid reply route: " ++ cause.message

end RoutingError

inductive Halt where
  | fault (e : RoutingError)
  /-- A cache entry would expire past the last reading of the clock; the stage breaks off. -/
  | clockOverflow
  deriving DecidableEq, Repr

structure Hop where
  source : Stage
  target : Stage
  envelope : Envelope
  deriving DecidableEq, Repr

/-- What a stage makes of an envelope: the hop it asks for, if any. -/
abbrev StageResult := Except Halt (Option Hop)

/-- Access to a guarded field inside a stage. -/
def guarded {α : Type} (r : Except EnvelopeError α) : Except Halt α :=
  match r with
  | .ok a => .ok a
  | .error e => .error (.fault (.envelope e))

def halt {α : Type} (e : RoutingError) : Except Halt α := .error (.fault e)

end ProtocolGateway
