import ProtocolGateway.Data.Table
import ProtocolGateway.Message.Message

/-!
The reply cache: fresh replies by the written form of a resource's name. Replies to READ and OBSERVE
are stored, replies to mutations throw the entry out. A full cache first drops what has expired and
then what was stored longest ago.
-/

namespace ProtocolGateway

/-- A reading of the clock, in nanoseconds. -/
structure Instant where
  nanos : Nat
  deriving DecidableEq, Repr, Inhabited

namespace Instant

def ofMillis (ms : Nat) : Instant := ⟨ms * 1000000⟩

/-- Readings stay below 2 ^ 63 seconds. -/
def limit : Nat := 0x8000000000000000 * 1000000000

def after? (i : Instant) (d : Span) : Option Instant :=
  if i.nanos + d.nanos < limit then some ⟨i.nanos + d.nanos⟩ else none

end Instant

structure CacheEntry where
  reply : Reply
  storedAt : Instant
  expiresAt : Instant
  deriving DecidableEq, Repr

namespace CacheEntry

def isFresh (e : CacheEntry) (now : Instant) : Bool := e.expiresAt.nanos > now.nanos

end CacheEntry

structure MemoryCache where
  entries : Table String CacheEntry
  /-- Lifetime of a reply that does not name one. -/
  defaultTtl : Span
  /-- Entries held at most, at least one. -/
  maxEntries : Nat
  deriving DecidableEq, Repr

namespace MemoryCache

def new (defaultTtl : Span) (maxEntries : Nat) : MemoryCache := ⟨[], defaultTtl, max maxEntries 1⟩

def standard : MemoryCache := new (.ofSeconds 30) 10000

/-- Entries held, also expired ones that nobody has looked at. -/
def size (c : MemoryCache) : Nat := c.entries.length

def clear (c : MemoryCache) : MemoryCache := { c with entries := [] }

/-- The fresh reply of a resource. An expired one is thrown out on the way. -/
def lookup (c : MemoryCache) (now : Instant) (uri : String) : Option Reply × MemoryCache :=
  match Table.at? c.entries uri with
  | none => (none, c)
  | some e =>
    if e.isFresh now then (some e.reply, c) else (none, { c with entries := Table.erase c.entries uri })

def oldest? : Table String CacheEntry → Option String
  | [] => none
  | (uri, e) :: rest =>
    some ((rest.foldl (fun best f => if f.2.storedAt.nanos < best.2.storedAt.nanos then f else best)
      (uri, e)).1)

def dropOldest (bound : Nat) : (fuel : Nat) → Table String CacheEntry → Table String CacheEntry
  | 0, es => es
  | fuel + 1, es =>
    if es.length < bound then es
    else match oldest? es with
      | some uri => dropOldest bound fuel (Table.erase es uri)
      | none => es

def evict (c : MemoryCache) (now : Instant) : MemoryCache :=
  let fresh := c.entries.filter fun e => e.2.isFresh now
  { c with entries := dropOldest c.maxEntries fresh.length fresh }

def lifetime (c : MemoryCache) (reply : Reply) : Span := reply.headers.maxAge.getD c.defaultTtl

/-- Room for one more entry, when the name is new to a full cache. -/
def makeRoom (c : MemoryCache) (now : Instant) (uri : String) : MemoryCache :=
  if !Table.has c.entries uri && c.size ≥ c.maxEntries then c.evict now else c

/-- Stores a reply. When it would expire past the last reading of the clock this breaks off, with room
made for it. -/
def store (c : MemoryCache) (now : Instant) (uri : String) (reply : Reply) : Bool × MemoryCache :=
  let room := c.makeRoom now uri
  match now.after? (c.lifetime reply) with
  | some expiresAt =>
    (true, { room with entries := Table.put uri ⟨reply, now, expiresAt⟩ room.entries })
  | none => (false, room)

/-- Offers a reply that was routed for a resource, and says whether that came to its end. -/
def update (c : MemoryCache) (now : Instant) (uri : String) (reply : Reply) : Bool × MemoryCache :=
  let o := reply.headers.operation
  if o.isMutation then (true, { c with entries := Table.erase c.entries uri })
  else if o = .read ∨ o = .observe then
    if (c.lifetime reply).nanos = 0 then (true, c) else c.store now uri reply
  else (true, c)

end MemoryCache

inductive ReplyCache where
  | off
  | memory (c : MemoryCache)
  deriving DecidableEq, Repr

namespace ReplyCache

def lookup (c : ReplyCache) (now : Instant) (uri : String) : Option Reply × ReplyCache :=
  match c with
  | .off => (none, .off)
  | .memory m =>
    let (hit, m) := m.lookup now uri
    (hit, .memory m)

def update (c : ReplyCache) (now : Instant) (uri : String) (reply : Reply) : Bool × ReplyCache :=
  match c with
  | .off => (true, .off)
  | .memory m =>
    let (completed, m) := m.update now uri reply
    (completed, .memory m)

def clear : ReplyCache → ReplyCache
  | .off => .off
  | .memory m => .memory m.clear

def size? : ReplyCache → Option Nat
  | .off => none
  | .memory m => some m.size

end ReplyCache

end ProtocolGateway
