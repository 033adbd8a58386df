import ProtocolGateway.Message.Message

/-!
Messages under construction. A request is given its payload, fresh or taken from another message. A
reply is drafted from the request it answers, or from a route when it answers none, and sealed when the
draft is finished.
-/

namespace ProtocolGateway

/-- A setter whose failure is ignored. -/
def Headers.attempt (h : Headers) (edit : HeaderEdit) : Headers :=
  match h.set edit with
  | .ok changed => changed
  | .error _ => h

/-- Gives a request a payload while it is being built. The payload may be another message's, sealed. -/
def Request.carrying (r : Request) (p : Payload) : Request :=
  if r.isSequenced then r else { r with payload := p }

theorem Request.withPayload_eq (r : Request) (data : Octets) :
    r.withPayload data = r.carrying (.new data) := rfl

structure ReplyDraft where
  sequence : Sequence
  headers : Headers
  payload : Payload
  deriving DecidableEq, Repr

inductive DraftCall where
  | payload (p : Payload)
  | sequence (s : Sequence)
  | contentType (value : String)
  | maxAge (value : Span)
  deriving DecidableEq, Repr

namespace ReplyDraft

def answering (r : Request) : ReplyDraft := ⟨r.sequence, r.headers.toWritable, .new []⟩

def notifying (operation : Operation) (target path : String) : ReplyDraft :=
  ⟨0, (Headers.new operation path).attempt (.target target), .new []⟩

def fill (d : ReplyDraft) : DraftCall → ReplyDraft
  | .payload p => { d with payload := p }
  | .sequence s => { d with sequence := s }
  | .contentType value => { d with headers := d.headers.attempt (.contentType value) }
  | .maxAge value => { d with headers := d.headers.attempt (.maxAge value) }

def fillAll (d : ReplyDraft) (calls : List DraftCall) : ReplyDraft := calls.foldl fill d

def finish (d : ReplyDraft) : Reply := ⟨d.sequence, d.headers.freeze, d.payload.freeze⟩

end ReplyDraft

end ProtocolGateway
