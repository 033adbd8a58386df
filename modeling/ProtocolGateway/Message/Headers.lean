import ProtocolGateway.Message.Operation
import ProtocolGateway.ProtocolError
import ProtocolGateway.Span

/-!
Headers of a message: what the pipeline needs to route it. Frozen headers are a read-only view, on
which every setter fails.
-/

namespace ProtocolGateway

structure Headers where
  operation : Operation
  /-- Authority of the resolved resource. -/
  target : String
  path : String
  contentType : Option String
  /-- Acceptable content types, in the order they were first added. -/
  accepted : List String
  qos : QualityOfService
  /-- How long a reply may be served from a cache. -/
  maxAge : Option Span
  readOnly : Bool
  deriving DecidableEq, Repr, Inhabited

inductive HeaderEdit where
  | operation (value : Operation)
  | target (value : String)
  | path (value : String)
  | contentType (value : String)
  | accept (value : String)
  | qos (value : QualityOfService)
  | maxAge (value : Span)
  deriving DecidableEq, Repr

namespace Headers

def new (operation : Operation) (path : String) : Headers :=
  ⟨operation, "", path, none, [], .atMostOnce, none, false⟩

def freeze (h : Headers) : Headers := { h with readOnly := true }

def toWritable (h : Headers) : Headers := { h with readOnly := false }

def addAccepted (types : List String) (value : String) : List String :=
  if types.contains value then types else types ++ [value]

def apply (h : Headers) : HeaderEdit → Headers
  | .operation value => { h with operation := value }
  | .target value => { h with target := value }
  | .path value => { h with path := value }
  | .contentType value => { h with contentType := some value }
  | .accept value => { h with accepted := addAccepted h.accepted value }
  | .qos value => { h with qos := value }
  | .maxAge value => { h with maxAge := some value }

def set (h : Headers) (edit : HeaderEdit) : Except ProtocolError Headers :=
  if h.readOnly then .error .readOnly else .ok (h.apply edit)

end Headers

end ProtocolGateway
