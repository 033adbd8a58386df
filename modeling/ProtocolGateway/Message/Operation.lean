import ProtocolGateway.Text.Ascii

/-! The operations that every protocol shares, and the delivery guarantees. -/

namespace ProtocolGateway

inductive Operation where
  | create | read | update | delete | observe | unobserve
  deriving DecidableEq, Repr, Inhabited

namespace Operation

def all : List Operation := [.create, .read, .update, .delete, .observe, .unobserve]

def name : Operation → String
  | .create => "CREATE"
  | .read => "READ"
  | .update => "UPDATE"
  | .delete => "DELETE"
  | .observe => "OBSERVE"
  | .unobserve => "UNOBSERVE"

def ofName? (s : String) : Option Operation := all.find? fun o => o.name == s

def parse? (s : String) : Option Operation := ofName? (Text.Ascii.upper s)

/-- Requests of these operations are correlated in the observe range. -/
def isObserveFamily (o : Operation) : Bool := o == .observe || o == .unobserve

/-- A successful reply to these operations changes the resource. -/
def isMutation (o : Operation) : Bool := o == .create || o == .update || o == .delete

end Operation

inductive QualityOfService where
  | atMostOnce | atLeastOnce | exactlyOnce
  deriving DecidableEq, Repr, Inhabited

namespace QualityOfService

def level : QualityOfService → Nat
  | .atMostOnce => 0
  | .atLeastOnce => 1
  | .exactlyOnce => 2

def ofLevel? : Nat → Option QualityOfService
  | 0 => some .atMostOnce
  | 1 => some .atLeastOnce
  | 2 => some .exactlyOnce
  | _ => none

end QualityOfService

end ProtocolGateway
