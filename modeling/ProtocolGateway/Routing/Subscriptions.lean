import ProtocolGateway.Data.Table
import ProtocolGateway.Plugin.Link
import ProtocolGateway.Routing.Sequencer

/-!
Who waits for replies on which resource. A subscriber is standing, and gets every reply, or waits
once, for the next reply to its own sequence. Under a resource each protocol has its set of
subscribers; no empty set and no empty resource is kept.
-/

namespace ProtocolGateway

inductive Subscriber where
  | standing
  | once (sequence : Sequence)
  deriving DecidableEq, Repr

namespace Subscriber

def before : Subscriber → Subscriber → Bool
  | .standing, _ => true
  | .once _, .standing => false
  | .once a, .once b => a ≤ b

def isOnce : Subscriber → Bool
  | .once _ => true
  | .standing => false

def sequence? : Subscriber → Option Sequence
  | .once s => some s
  | .standing => none

end Subscriber

/-- Whom a reply goes to: subscribers by protocol, in the order of the names. -/
abbrev ReplyTo := List (ProtocolName × List Subscriber)

abbrev Subscribers := Table ProtocolName (List Subscriber)

namespace Subscribers

def of (ss : Subscribers) (p : ProtocolName) : List Subscriber := (Table.at? ss p).getD []

def add (ss : Subscribers) (p : ProtocolName) (s : Subscriber) : Subscribers :=
  let mine := of ss p
  Table.put p (if mine.contains s then mine else mine ++ [s]) ss

/-- Takes a subscriber out, and its protocol with the last one. -/
def remove (ss : Subscribers) (p : ProtocolName) (s : Subscriber) : Subscribers :=
  (ss.map fun e => if e.1 = p then (e.1, e.2.filter (· ≠ s)) else e).filter fun e => !e.2.isEmpty

def observers (ss : Subscribers) : Nat := ss.countP fun e => e.2.contains .standing

end Subscribers

structure SubscriptionStats where
  uris : Nat
  standing : Nat
  oneShot : Nat
  deriving DecidableEq, Repr

/-- Subscribers by the written form of the resource's name. -/
structure Subscriptions where
  entries : Table String Subscribers
  deriving DecidableEq, Repr

namespace Subscriptions

def empty : Subscriptions := ⟨[]⟩

def under (r : Subscriptions) (uri : String) : Subscribers := (Table.at? r.entries uri).getD []

/-- Puts the subscribers of a resource; it goes when none are left. -/
def store (r : Subscriptions) (uri : String) (ss : Subscribers) : Subscriptions :=
  if ss.isEmpty then ⟨Table.erase r.entries uri⟩ else ⟨Table.put uri ss r.entries⟩

def subscribe (r : Subscriptions) (uri : String) (p : ProtocolName) (s : Subscriber) : Subscriptions :=
  r.store uri ((r.under uri).add p s)

/-- Adds a standing subscriber and one for the request itself. Says whether the resource was
observed already, so that its target need not hear of it again. -/
def observe (r : Subscriptions) (uri : String) (p : ProtocolName) (s : Sequence) :
    Bool × Subscriptions :=
  let ss := r.under uri
  (ss.observers > 0, r.store uri ((ss.add p .standing).add p (.once s)))

/-- Takes the protocol's standing subscriber out and counts the observers left. When there are none
the target has to be told, and a subscriber for the request itself is added. -/
def unobserve (r : Subscriptions) (uri : String) (p : ProtocolName) (s : Sequence) :
    Nat × Subscriptions :=
  let ss := (r.under uri).remove p .standing
  (ss.observers, r.store uri (if ss.observers = 0 then ss.add p (.once s) else ss))

def remove (r : Subscriptions) (uri : String) (p : ProtocolName) (s : Subscriber) :
    Bool × Subscriptions :=
  let ss := r.under uri
  ((ss.of p).contains s, r.store uri (ss.remove p s))

def delivered (includeStanding : Bool) (mine : List Subscriber) : List Subscriber :=
  (mine.filter fun s => s.isOnce || includeStanding).mergeSort Subscriber.before

/-- Takes every waiting subscriber of a resource out and lists those the reply goes to; standing ones
stay, and are listed when asked for. `none` when the resource has no subscribers. -/
def drain (r : Subscriptions) (uri : String) (includeStanding : Bool) :
    Option ReplyTo × Subscriptions :=
  match Table.at? r.entries uri with
  | none => (none, r)
  | some ss =>
    let listed := (ss.map fun e => (e.1, delivered includeStanding e.2)).filter fun e => !e.2.isEmpty
    let kept := (ss.map fun e => (e.1, e.2.filter (· = .standing))).filter fun e => !e.2.isEmpty
    (some (listed.mergeSort fun a b => !b.1.before a.1), r.store uri kept)

def contains (r : Subscriptions) (uri : String) : Bool := Table.has r.entries uri

def observerCount (r : Subscriptions) (uri : String) : Nat := (r.under uri).observers

def count (r : Subscriptions) (wanted : Subscriber → Bool) : Nat :=
  total (fun e => total (fun f => f.2.countP wanted) e.2) r.entries

def stats (r : Subscriptions) : SubscriptionStats :=
  ⟨r.entries.length, r.count (!·.isOnce), r.count (·.isOnce)⟩

end Subscriptions

end ProtocolGateway
