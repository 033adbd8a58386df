import ProtocolGateway.Data.Reader
import ProtocolGateway.Text.Ascii
import ProtocolGateway.Message.Message

/-!
Headers and the names of the vocabulary as documents: how they are read and how they are written.
-/

namespace ProtocolGateway

namespace Operation

def reader : Reader Operation := fun d x =>
  (Reader.choice (all.map name) d x).bind ofName?

end Operation

namespace QualityOfService

def reader : Reader QualityOfService := fun d x => (Reader.nat 255 d x).bind ofLevel?

end QualityOfService

namespace Reason

def reader : Reader Reason := fun d x => (Reader.choice (all.map name) d x).bind ofName?

end Reason

namespace MessageKind

def ofName? (s : String) : Option MessageKind := all.find? fun k => k.name == s

def reader : Reader MessageKind := fun d x => (Reader.choice (all.map name) d x).bind ofName?

end MessageKind

namespace Span

/-- Seconds and nanoseconds; nanoseconds past a second carry over. -/
def reader : Reader Span := fun d x => do
  match ← Reader.exactSlots ["secs", "nanos"] d x with
  | [secs, nanos] =>
    let secs ← Reader.required (Reader.nat Word.max64) d secs
    let nanos ← Reader.required (Reader.nat Word.max32) d nanos
    let total := secs * 1000000000 + nanos
    if total ≤ maxNanos then some ⟨total⟩ else none
  | _ => none

def datum (s : Span) : Datum :=
  .ofMembers [("secs", .int s.seconds), ("nanos", .int (s.nanos % 1000000000))]

end Span

namespace Headers

def fieldNames : List String :=
  ["operation", "target", "path", "content_type", "accepted_content_types", "qos", "max_age"]

def reader : Reader Headers := fun d x => do
  match ← Reader.slots fieldNames d x with
  | [operation, target, path, contentType, accepted, qos, maxAge] =>
    let operation ← Reader.required Operation.reader d operation
    let target ← Reader.required Reader.text d target
    let path ← Reader.required Reader.text d path
    let contentType ← Reader.optionalField Reader.text d contentType
    let accepted ← Reader.required (Reader.list Reader.text) d accepted
    let qos ← Reader.required QualityOfService.reader d qos
    let maxAge ← Reader.optionalField Span.reader d maxAge
    some ⟨operation, target, path, contentType, accepted, qos, maxAge, false⟩
  | _ => none

def datum (h : Headers) : Datum :=
  .ofMembers
    [("operation", .text h.operation.name), ("target", .text h.target), ("path", .text h.path),
      ("content_type", .ofOption (h.contentType.map .text)),
      ("accepted_content_types", .list (h.accepted.map .text)),
      ("qos", .int h.qos.level), ("max_age", .ofOption (h.maxAge.map Span.datum))]

end Headers

end ProtocolGateway
