import ProtocolGateway.Routing.Subscriptions

/-!
Envelopes. An envelope carries one message and its routing data through the pipeline. Each field is
guarded: the main token may read and write everything, any other token what it was granted.
-/

namespace ProtocolGateway

/-- A capability, known by its identity alone. -/
structure Token where
  id : Nat
  deriving DecidableEq, Repr

inductive EnvelopeField where
  | message | source | target | replyTo
  deriving DecidableEq, Repr

def EnvelopeField.name : EnvelopeField → String
  | .message => "message"
  | .source => "source_protocol"
  | .target => "target_protocol"
  | .replyTo => "reply_to"

inductive MainAction where
  | grant | countHops
  deriving DecidableEq, Repr

inductive EnvelopeError where
  | accessDenied (field : EnvelopeField)
  | notMainToken (action : MainAction)
  deriving DecidableEq, Repr

namespace EnvelopeError

def name : EnvelopeError → String
  | .accessDenied _ => "AccessDenied"
  | .notMainToken _ => "NotMainToken"

def message : EnvelopeError → String
  | .accessDenied field => "Access denied to " ++ field.name
  | .notMainToken .grant => "Main token required to grant access"
  | .notMainToken .countHops => "Main token required to count hops"

end EnvelopeError

inductive FieldValue where
  | message (m : Message)
  | source (p : ProtocolName)
  | target (p : ProtocolName)
  | replyTo (r : ReplyTo)
  deriving DecidableEq, Repr

def FieldValue.field : FieldValue → EnvelopeField
  | .message _ => .message
  | .source _ => .source
  | .target _ => .target
  | .replyTo _ => .replyTo

structure Envelope where
  content : Message
  hops : Nat
  main : Token
  grants : List (EnvelopeField × Token)
  sourceProtocol : Option ProtocolName
  targetProtocol : Option ProtocolName
  replyList : Option ReplyTo
  deriving DecidableEq, Repr

namespace Envelope

def new (main : Token) (m : Message) : Envelope := ⟨m, 0, main, [], none, none, none⟩

def isMain (e : Envelope) (t : Token) : Bool := e.main == t

def allows (e : Envelope) (t : Token) (field : EnvelopeField) : Bool :=
  e.isMain t || e.grants.contains (field, t)

def grant (e : Envelope) (main t : Token) (field : EnvelopeField) : Except EnvelopeError Envelope :=
  if e.isMain main then .ok { e with grants := (field, t) :: e.grants }
  else .error (.notMainToken .grant)

def pass (e : Envelope) (main : Token) : Except EnvelopeError Envelope :=
  if e.isMain main then .ok { e with hops := e.hops + 1 } else .error (.notMainToken .countHops)

def check (e : Envelope) (t : Token) (field : EnvelopeField) : Except EnvelopeError Unit :=
  if e.allows t field then .ok () else .error (.accessDenied field)

def message (e : Envelope) (t : Token) : Except EnvelopeError Message :=
  (e.check t .message).map fun _ => e.content

def source (e : Envelope) (t : Token) : Except EnvelopeError (Option ProtocolName) :=
  (e.check t .source).map fun _ => e.sourceProtocol

def target (e : Envelope) (t : Token) : Except EnvelopeError (Option ProtocolName) :=
  (e.check t .target).map fun _ => e.targetProtocol

def replyTo (e : Envelope) (t : Token) : Except EnvelopeError (Option ReplyTo) :=
  (e.check t .replyTo).map fun _ => e.replyList

def put (e : Envelope) : FieldValue → Envelope
  | .message m => { e with content := m }
  | .source p => { e with sourceProtocol := some p }
  | .target p => { e with targetProtocol := some p }
  | .replyTo r => { e with replyList := some r }

def write (e : Envelope) (t : Token) (v : FieldValue) : Except EnvelopeError Envelope :=
  (e.check t v.field).map fun _ => e.put v

/-- A short text that gives nothing guarded away. Braces enclose the fields. -/
def text (e : Envelope) : String :=
  "Envelope \x7b kind: " ++ e.content.kind.name ++ ", sequence: " ++ toString e.content.sequence.toNat ++
    ", hops: " ++ toString e.hops ++ ", .. \x7d"

end Envelope

end ProtocolGateway
