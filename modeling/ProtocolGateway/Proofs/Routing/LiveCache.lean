import Mathlib
import ProtocolGateway.Proofs.Routing.Freshness

/-!
A cache of live entries. It holds only what may still be served, in the order in which it was stored;
when it is full the entry at its head makes room.
-/

namespace ProtocolGateway

/-! Live entries -/

/-- Live entries, the one stored longest ago first. -/
structure LiveCache where
  now : Instant
  /-- Lifetime of a reply that does not name one. -/
  ttl : Span
  /-- Entries held at most. -/
  bound : Nat
  entries : Table String CacheEntry
  deriving DecidableEq, Repr

namespace CacheEvent

def isLookup : CacheEvent → Bool
  | .lookup _ => true
  | .offer .. | .clear | .advance _ => false

def clock (now : Instant) : CacheEvent → Instant
  | .advance span => ⟨now.nanos + span.nanos⟩
  | .offer .. | .lookup _ | .clear => now

end CacheEvent

namespace LiveCache

def new (now : Instant) (ttl : Span) (capacity : Nat) : LiveCache := ⟨now, ttl, max capacity 1, []⟩

/-- What stays when a reply is stored. A new name among as many as there may be costs the oldest
entry; a known name only its own. -/
def spared (c : LiveCache) (uri : String) : Table String CacheEntry :=
  if Table.has c.entries uri ∨ c.entries.length < c.bound then Table.erase c.entries uri
  else c.entries.tail

def entry (c : LiveCache) (reply : Reply) : CacheEntry :=
  ⟨reply, c.now, ⟨c.now.nanos + (reply.headers.maxAge.getD c.ttl).nanos⟩⟩

def offer (c : LiveCache) (uri : String) (reply : Reply) : LiveCache :=
  if reply.headers.operation.isMutation then { c with entries := Table.erase c.entries uri }
  else if reply.Lasts c.ttl then { c with entries := c.spared uri ++ [(uri, c.entry reply)] }
  else c

/-- Nothing stays past its expiry. -/
def advance (c : LiveCache) (span : Span) : LiveCache :=
  let now : Instant := ⟨c.now.nanos + span.nanos⟩
  { c with now := now, entries := c.entries.filter fun e => e.2.isFresh now }

/-- A look-up changes nothing. -/
def step (c : LiveCache) : CacheEvent → LiveCache
  | .offer uri reply => c.offer uri reply
  | .lookup _ => c
  | .clear => { c with entries := [] }
  | .advance span => c.advance span

def run (c : LiveCache) (events : List CacheEvent) : LiveCache := events.foldl step c

def served (c : LiveCache) (uri : String) : Option Reply :=
  (Table.at? c.entries uri).map CacheEntry.reply

end LiveCache

/-! When entries are stored -/

structure Storing where
  uri : String
  instant : Instant
  lifetime : Span
  deriving DecidableEq, Repr

def CacheEvent.storing? (ttl : Span) (now : Instant) : CacheEvent → Option Storing
  | .offer uri reply =>
    if reply.Lasts ttl then some ⟨uri, now, reply.headers.maxAge.getD ttl⟩ else none
  | .lookup _ | .clear | .advance _ => none

def storings (ttl : Span) : Instant → List CacheEvent → List Storing
  | _, [] => []
  | now, event :: rest => (event.storing? ttl now).toList ++ storings ttl (event.clock now) rest

/-- No two names have entries stored at one instant, and the clock holds every lifetime. -/
structure Timely (ttl : Span) (now : Instant) (events : List CacheEvent) : Prop where
  apart : (storings ttl now events).Pairwise fun a b => a.instant = b.instant → a.uri = b.uri
  fits : ∀ x ∈ storings ttl now events, (x.instant.after? x.lifetime).isSome

/-! One event -/

namespace LiveCache

variable {c : LiveCache} {uri : String} {e : String × CacheEntry}

theorem spared_sublist (c : LiveCache) (uri : String) : (c.spared uri).Sublist c.entries := by
  unfold spared
  split
  · exact List.filter_sublist
  · exact List.tail_sublist _

theorem other_of_spared (member : e ∈ c.spared uri) : e.1 ≠ uri := by
  unfold spared at member
  split at member
  · exact of_decide_eq_true (List.mem_filter.mp member).2
  · rename_i full
    intro here
    apply full
    left
    exact Table.has_iff.mpr (here ▸ Table.mem_keys (List.mem_of_mem_tail member))

theorem spared_new (new : uri ∉ Table.keys c.entries) (size : c.entries.length ≤ c.bound) :
    c.spared uri = c.entries.drop (c.entries.length + 1 - c.bound) := by
  have unknown : ¬Table.has c.entries uri = true := fun known => new (Table.has_iff.mp known)
  unfold spared
  by_cases fits : c.entries.length < c.bound
  · have nothing : c.entries.length + 1 - c.bound = 0 := by omega
    rw [if_pos (Or.inr fits), nothing, Table.erase_of_not_mem new]
    rfl
  · have one : c.entries.length + 1 - c.bound = 1 := by omega
    rw [if_neg (fun either => either.elim unknown fits), one, List.drop_one]

theorem step_eq (c : LiveCache) (event : CacheEvent) :
    ∃ entries, c.step event = { c with now := event.clock c.now, entries := entries } := by
  cases event with
  | offer uri reply =>
    change ∃ entries, c.offer uri reply = { c with entries := entries }
    unfold offer
    split
    · exact ⟨_, rfl⟩
    · split
      · exact ⟨_, rfl⟩
      · exact ⟨c.entries, rfl⟩
  | lookup _ => exact ⟨c.entries, rfl⟩
  | clear => exact ⟨[], rfl⟩
  | advance _ => exact ⟨_, rfl⟩

theorem bound_run (c : LiveCache) (events : List CacheEvent) : (c.run events).bound = c.bound := by
  induction events generalizing c with
  | nil => rfl
  | cons event rest ih =>
    obtain ⟨entries, step⟩ := c.step_eq event
    calc
      ((c.step event).run rest).bound = (c.step event).bound := ih _
      _ = c.bound := by rw [step]

theorem mem_step {event : CacheEvent} (member : e ∈ (c.step event).entries) :
    e ∈ c.entries ∨
      ∃ x ∈ event.storing? c.ttl c.now, e.1 = x.uri ∧ e.2.storedAt = x.instant := by
  cases event with
  | offer uri reply =>
    change e ∈ (c.offer uri reply).entries at member
    unfold offer at member
    split at member
    · exact Or.inl (List.mem_of_mem_filter member)
    · split at member
      · rename_i lasts
        rcases List.mem_append.mp member with old | new
        · exact Or.inl ((c.spared_sublist uri).subset old)
        · cases List.mem_singleton.mp new
          right
          simp [CacheEvent.storing?, lasts, entry]
      · exact Or.inl member
  | lookup _ => exact Or.inl member
  | clear => cases member
  | advance _ => exact Or.inl (List.mem_of_mem_filter member)

end LiveCache

/-- What lies ahead of a live cache: no entry to be stored meets one of another name that was stored
at the same instant. -/
structure LiveCache.Awaits (c : LiveCache) (events : List CacheEvent) : Prop where
  timely : Timely c.ttl c.now events
  ahead : ∀ e ∈ c.entries, ∀ x ∈ storings c.ttl c.now events,
    e.2.storedAt = x.instant → e.1 = x.uri

namespace LiveCache.Awaits

variable {c : LiveCache} {event : CacheEvent} {rest : List CacheEvent}

theorem step (awaits : c.Awaits (event :: rest)) : (c.step event).Awaits rest := by
  have later : storings (c.step event).ttl (c.step event).now rest =
      storings c.ttl (event.clock c.now) rest := by
    obtain ⟨entries, step⟩ := c.step_eq event
    rw [step]
  have apart := List.pairwise_append.mp awaits.timely.apart
  constructor
  · constructor
    · rw [later]
      exact apart.2.1
    · rw [later]
      intro x member
      exact awaits.timely.fits x (List.mem_append_right _ member)
  · rw [later]
    intro e member x ahead same
    rcases mem_step member with old | ⟨y, new, name, instant⟩
    · exact awaits.ahead e old x (List.mem_append_right _ ahead) same
    · rw [name]
      exact apart.2.2 y (Option.mem_toList.mpr new) x ahead (instant ▸ same)

theorem storing {uri : String} {reply : Reply} (awaits : c.Awaits (.offer uri reply :: rest))
    (lasts : reply.Lasts c.ttl) :
    c.now.after? (reply.headers.maxAge.getD c.ttl) = some (c.entry reply).expiresAt ∧
      ∀ e ∈ c.entries, e.2.storedAt = c.now → e.1 = uri := by
  have first : (⟨uri, c.now, reply.headers.maxAge.getD c.ttl⟩ : Storing) ∈
      storings c.ttl c.now (.offer uri reply :: rest) := by
    apply List.mem_append_left
    simp [CacheEvent.storing?, lasts]
  constructor
  · have fits := awaits.timely.fits _ first
    unfold Instant.after? at fits ⊢
    split at fits
    · rename_i early
      exact if_pos early
    · cases fits
  · intro e member same
    exact awaits.ahead e member _ first same

end LiveCache.Awaits

/-! Histories without their look-ups -/

theorem LiveCache.run_without_lookups (c : LiveCache) (events : List CacheEvent) :
    c.run (events.filter fun e => !e.isLookup) = c.run events := by
  induction events generalizing c with
  | nil => rfl
  | cons event rest ih =>
    cases event with
    | lookup uri => exact ih c
    | offer uri reply => exact ih (c.offer uri reply)
    | clear => exact ih (c.step .clear)
    | advance span => exact ih (c.advance span)

theorem storings_without_lookups (ttl : Span) (now : Instant) (events : List CacheEvent) :
    storings ttl now (events.filter fun e => !e.isLookup) = storings ttl now events := by
  induction events generalizing now with
  | nil => rfl
  | cons event rest ih =>
    cases event with
    | lookup uri => exact ih now
    | offer uri reply => exact congrArg (_ ++ ·) (ih now)
    | clear => exact ih now
    | advance span => exact ih _

theorem Timely.without_lookups {ttl : Span} {now : Instant} {events others : List CacheEvent}
    (timely : Timely ttl now events)
    (same : (others.filter fun e => !e.isLookup) = events.filter fun e => !e.isLookup) :
    Timely ttl now others := by
  have storings : storings ttl now others = storings ttl now events := by
    rw [← storings_without_lookups ttl now others, same, storings_without_lookups]
  constructor
  · rw [storings]
    exact timely.apart
  · rw [storings]
    exact timely.fits

end ProtocolGateway
