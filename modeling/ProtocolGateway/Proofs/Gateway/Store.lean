import Mathlib
import ProtocolGateway.Proofs.Gateway.Stirring

/-!
The gateway as a map. To its callers a gateway with memory targets is a plain map from names to
contents: each request finds it as the requests before it have left it, whatever the cache holds.
-/

namespace ProtocolGateway

/-! The map -/

inductive Answer where
  | done
  | value (content : Octets)
  | rejected (reason : Reason)
  deriving DecidableEq

def Answer.Fits : Answer → Except LinkError Reply → Prop
  | .done, .ok _ => True
  | .value content, .ok r => r.payload.data = content
  | .rejected reason, .error (.rejected e) => e.reason = reason
  | _, _ => False

/-- What an operation makes of one content, and what it answers. Observations change nothing, and
what they are answered is no matter of the map. -/
def Operation.applied (o : Operation) (data : Octets) (content : Option Octets) :
    Option Octets × Option Answer :=
  match o, content with
  | .create, _ => (some data, some .done)
  | .read, some bytes => (some bytes, some (.value bytes))
  | .update, some _ => (some data, some .done)
  | .delete, some _ => (none, some .done)
  | .read, none | .update, none | .delete, none => (none, some (.rejected .pathNotFound))
  | .observe, _ | .unobserve, _ => (content, none)

theorem Operation.applied_family {o : Operation} (family : o.isObserveFamily = true) (data : Octets)
    (content : Option Octets) : o.applied data content = (content, none) := by
  cases o <;> first | rfl | cases family

structure Store where
  serves : ProtocolName → Bool
  content : ResourceUri → Option Octets

namespace Store

def put (st : Store) (u : ResourceUri) (content : Option Octets) : Store :=
  { st with content := Function.update st.content u content }

def serve (st : Store) (r : Request) : Store × Option Answer :=
  if r.headers.operation.isObserveFamily then (st, none)
  else match ResourceUri.parse r.headers.path with
    | .error _ => (st, some (.rejected .invalidUri))
    | .ok u =>
      if st.serves (.of u.scheme) then
        let (content, answer) := r.headers.operation.applied r.payload.data (st.content u)
        (st.put u content, answer)
      else (st, some (.rejected .unavailablePlugin))

variable (st : Store) {r : Request} {u : ResourceUri}

theorem put_self (u : ResourceUri) : st.put u (st.content u) = st := by
  unfold put
  rw [Function.update_eq_self]

theorem serve_family (family : r.headers.operation.isObserveFamily = true) : st.serve r = (st, none) := by
  unfold serve
  rw [if_pos family]

theorem serve_unnamed {cause : ProtocolError} (unreadable : ResourceUri.parse r.headers.path = .error cause) :
    (st.serve r).1 = st ∧ ∀ a, (st.serve r).2 = some a → a = .rejected .invalidUri := by
  unfold serve
  rw [unreadable]
  split
  · exact ⟨rfl, fun a none => nomatch none⟩
  · exact ⟨rfl, fun a given => (Option.some.inj given).symm⟩

theorem serve_unserved (named : ResourceUri.parse r.headers.path = .ok u)
    (unserved : st.serves (.of u.scheme) = false) :
    (st.serve r).1 = st ∧ ∀ a, (st.serve r).2 = some a → a = .rejected .unavailablePlugin := by
  unfold serve
  rw [named]
  dsimp only
  rw [unserved]
  split
  · exact ⟨rfl, fun a none => nomatch none⟩
  · exact ⟨rfl, fun a given => (Option.some.inj given).symm⟩

theorem serve_served (named : ResourceUri.parse r.headers.path = .ok u)
    (served : st.serves (.of u.scheme) = true) :
    st.serve r = (st.put u (r.headers.operation.applied r.payload.data (st.content u)).1,
      (r.headers.operation.applied r.payload.data (st.content u)).2) := by
  unfold serve
  rw [named]
  dsimp only
  rw [served]
  split
  · rename_i family
    rw [Operation.applied_family family, put_self]
  · rfl

theorem serve_read (named : ResourceUri.parse r.headers.path = .ok u)
    (served : st.serves (.of u.scheme) = true) (read : r.headers.operation = .read) {content : Octets}
    (there : st.content u = some content) : st.serve r = (st, some (.value content)) := by
  rw [st.serve_served named served, read, there]
  refine congrArg (Prod.mk · _) ?_
  change st.put u (some content) = st
  rw [← there]
  exact st.put_self u

end Store

/-! The gateway -/

/-- A request through an origin, and how long nothing happens after it. -/
structure Call where
  origin : ProtocolName
  request : Request
  pause : Nat

namespace Gateway

def Frame.targetOf (f : Frame) (u : ResourceUri) : Option MemoryTarget :=
  (f.outlook (.of u.scheme)).bind Outlook.target

def Frame.contentOf (f : Frame) (u : ResourceUri) : Option Octets :=
  (f.targetOf u).bind fun t => t.resource? u.authority u.pathAndQuery

def Frame.Observes (f : Frame) (u : ResourceUri) : Prop :=
  ∃ t, f.targetOf u = some t ∧ t.isObserved u.authority u.pathAndQuery = true

def Frame.serves (f : Frame) (p : ProtocolName) : Bool := ((f.outlook p).map (·.hasClient)).getD false

def store (g : Gateway) : Store := ⟨g.frame.serves, g.frame.contentOf⟩

def Gives (g : Gateway) (t : Ticket) (a : Answer) : Prop := ∀ limit, a.Fits (g.wait t limit).2

/-- One request after the other is accepted and given the answer of the map, in whatever order things
happen until the gateway is at rest again. -/
def Serves (st : Store) : List Call → Gateway → Prop
  | [], _ => True
  | c :: rest, g =>
    ∃ g' s t, g.submit c.origin c.request = (g', .ok (s, t)) ∧
      g'.Settles fun g'' =>
        (∀ a, (st.serve c.request).2 = some a → g''.Gives t a) ∧
          Serves (st.serve c.request).1 rest (g''.pass c.pause)

end Gateway

end ProtocolGateway
