/-!
What can go wrong while a message is built or read.
-/

namespace ProtocolGateway

inductive ProtocolError where
  /-- A setter was called on a sealed view. -/
  | readOnly
  | alreadySequenced (sequence : Nat)
  /-- Sequence zero stands for no sequence. -/
  | reservedSequence
  | invalidUri (cause : String)
  | charset (name : String)
  | unsupportedContentType (mediaType : String)
  /-- A JSON payload that does not read as the wanted value. -/
  | json
  /-- A MessagePack payload that does not read as the wanted value. -/
  | messagePack
  deriving DecidableEq, Repr

namespace ProtocolError

def name : ProtocolError → String
  | .readOnly => "ReadOnly"
  | .alreadySequenced _ => "AlreadySequenced"
  | .reservedSequence => "ReservedSequence"
  | .invalidUri _ => "InvalidUri"
  | .charset _ => "Charset"
  | .unsupportedContentType _ => "UnsupportedContentType"
  | .json => "Json"
  | .messagePack => "Decode"

/-- The wording; a decoder's own wording is not kept. -/
def message : ProtocolError → String
  | .readOnly => "Message is read-only"
  | .alreadySequenced s => "Request already sequenced as " ++ toString s
  | .reservedSequence => "Sequence 0 is reserved"
  | .invalidUri cause => "Invalid URI: " ++ cause
  | .charset name => "Payload is not valid " ++ name
  | .unsupportedContentType t => "Unsupported content type: " ++ t
  | .json => "JSON error"
  | .messagePack => "Decoding error"

end ProtocolError

end ProtocolGateway
