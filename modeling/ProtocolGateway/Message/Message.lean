import ProtocolGateway.Message.Headers
import ProtocolGateway.Text.Utf8

/-!
The messages that pass through the gateway. A request can be changed until a sequence is assigned
to it; replies and errors are sealed from the start and carry the sequence of what they answer.
-/

namespace ProtocolGateway

/-- A correlation number. Zero stands for no sequence. -/
abbrev Sequence := UInt32

structure Payload where
  data : Octets
  readOnly : Bool
  deriving DecidableEq, Repr, Inhabited

namespace Payload

def new (data : Octets) : Payload := ⟨data, false⟩

def freeze (p : Payload) : Payload := { p with readOnly := true }

def set (p : Payload) (data : Octets) : Except ProtocolError Payload :=
  if p.readOnly then .error .readOnly else .ok { p with data := data }

end Payload

inductive Reason where
  | invalidUri | unavailablePlugin | targetNotFound | pathNotFound | other | internalError
  deriving DecidableEq, Repr, Inhabited

namespace Reason

def all : List Reason :=
  [.invalidUri, .unavailablePlugin, .targetNotFound, .pathNotFound, .other, .internalError]

def name : Reason → String
  | .invalidUri => "INVALID_URI"
  | .unavailablePlugin => "UNAVAILABLE_PLUGIN"
  | .targetNotFound => "TARGET_NOT_FOUND"
  | .pathNotFound => "PATH_NOT_FOUND"
  | .other => "OTHER"
  | .internalError => "INTERNAL_ERROR"

def title : Reason → String
  | .invalidUri => "InvalidUri"
  | .unavailablePlugin => "UnavailablePlugin"
  | .targetNotFound => "TargetNotFound"
  | .pathNotFound => "PathNotFound"
  | .other => "Other"
  | .internalError => "InternalError"

def ofName? (s : String) : Option Reason := all.find? fun r => r.name == s

end Reason

inductive MessageKind where
  | request | reply | error
  deriving DecidableEq, Repr, Inhabited

namespace MessageKind

def all : List MessageKind := [.request, .reply, .error]

def name : MessageKind → String
  | .request => "Request"
  | .reply => "Reply"
  | .error => "Error"

end MessageKind

/-! Requests -/

structure Request where
  sequence : Sequence
  headers : Headers
  payload : Payload
  deriving DecidableEq, Repr, Inhabited

namespace Request

def new (operation : Operation) (path : String) : Request :=
  ⟨0, Headers.new operation path, .new []⟩

def isSequenced (r : Request) : Bool := r.sequence != 0

def sequence? (r : Request) : Option Sequence := if r.isSequenced then some r.sequence else none

def withPayload (r : Request) (data : Octets) : Request :=
  if r.isSequenced then r else { r with payload := .new data }

def setHeader (r : Request) (edit : HeaderEdit) : Except ProtocolError Request :=
  (r.headers.set edit).map fun h => { r with headers := h }

def setPayload (r : Request) (data : Octets) : Except ProtocolError Request :=
  (r.payload.set data).map fun p => { r with payload := p }

def assignSequence (r : Request) (s : Sequence) : Except ProtocolError Request :=
  if r.isSequenced then .error (.alreadySequenced r.sequence.toNat)
  else if s = 0 then .error .reservedSequence
  else .ok ⟨s, r.headers.freeze, r.payload.freeze⟩

theorem assignSequence_ok {r r' : Request} {s : Sequence} (assigned : r.assignSequence s = .ok r') :
    r.isSequenced = false ∧ s ≠ 0 ∧ r' = ⟨s, r.headers.freeze, r.payload.freeze⟩ := by
  unfold assignSequence at assigned
  split at assigned
  · cases assigned
  · rename_i unassigned
    split at assigned
    · cases assigned
    · rename_i nonzero
      exact ⟨by simpa using unassigned, nonzero, (Except.ok.inj assigned).symm⟩

/-- A copy with another route, sealed if this one is. -/
def rerouted (r : Request) (target path : String) : Request :=
  { r with headers := { r.headers with target := target, path := path, readOnly := r.isSequenced } }

end Request

/-! Replies -/

structure Reply where
  sequence : Sequence
  headers : Headers
  payload : Payload
  deriving DecidableEq, Repr, Inhabited

namespace Reply

/-- What a reply is built from; a part that is left out is taken from the request or the default. -/
structure Parts where
  payload : Octets := []
  contentType : Option String := none
  maxAge : Option Span := none
  sequence : Option Sequence := none
  deriving Repr, Inhabited

def build (sequence : Sequence) (headers : Headers) (p : Parts) : Reply :=
  ⟨p.sequence.getD sequence,
    { headers with
      contentType := p.contentType <|> headers.contentType
      maxAge := p.maxAge <|> headers.maxAge
      readOnly := true },
    ⟨p.payload, true⟩⟩

/-- A reply to `request`, with its operation, route and all other headers. -/
def answering (request : Request) (p : Parts) : Reply := build request.sequence request.headers p

def forRequest (request : Request) (data : Octets) : Reply := answering request { payload := data }

def notification (operation : Operation) (target path : String) (p : Parts) : Reply :=
  build 0 { Headers.new operation path with target := target } p

def retagged (r : Reply) (s : Sequence) : Reply := { r with sequence := s }

end Reply

/-! Errors -/

structure ErrorReply where
  sequence : Sequence
  headers : Headers
  reason : Reason
  /-- The kind of message that failed. -/
  failed : MessageKind
  detail : Option String
  deriving DecidableEq, Repr, Inhabited

namespace ErrorReply

def forRequest (request : Request) (reason : Reason) : ErrorReply :=
  ⟨request.sequence, request.headers.freeze, reason, .request, none⟩

def forReply (reply : Reply) (reason : Reason) : ErrorReply :=
  ⟨reply.sequence, reply.headers, reason, .reply, none⟩

def withDetail (e : ErrorReply) (detail : String) : ErrorReply := { e with detail := some detail }

def retagged (e : ErrorReply) (s : Sequence) : ErrorReply := { e with sequence := s }

def text (e : ErrorReply) : String :=
  e.reason.name ++ " (" ++ e.failed.name ++ " #" ++ toString e.sequence.toNat ++ ")" ++
    match e.detail with
    | some d => ": " ++ d
    | none => ""

end ErrorReply

/-! Any message -/

inductive Message where
  | request (r : Request)
  | reply (r : Reply)
  | error (e : ErrorReply)
  deriving DecidableEq, Repr, Inhabited

namespace Message

def kind : Message → MessageKind
  | .request _ => .request
  | .reply _ => .reply
  | .error _ => .error

def headers : Message → Headers
  | .request r => r.headers
  | .reply r => r.headers
  | .error e => e.headers

def sequence : Message → Sequence
  | .request r => r.sequence
  | .reply r => r.sequence
  | .error e => e.sequence

def isReplyLike : Message → Bool
  | .request _ => false
  | _ => true

end Message

end ProtocolGateway
