import Mathlib
import ProtocolGateway.Proofs.Routing.Holding

/-!
Which reply a cache serves. An entry is the last reply that was stored under its name, and nothing
that was offered for the name since then was stored or answered a mutation. Of READ and OBSERVE
replies those are not stored that may be served for no time at all, and those that would expire past
the last reading of the clock; the entry before them stays.
-/

namespace ProtocolGateway

/-- A reply takes the place of an older one, or throws it out. -/
def Reply.Displaces (ttl : Span) (now : Instant) (reply : Reply) : Prop :=
  reply.headers.operation.isMutation = true ∨
    (reply.headers.operation = .read ∨ reply.headers.operation = .observe) ∧
      (reply.headers.maxAge.getD ttl).nanos ≠ 0 ∧
      (now.after? (reply.headers.maxAge.getD ttl)).isSome

theorem Reply.idle_of_short {ttl : Span} {now : Instant} {reply : Reply}
    (idle : reply.headers.operation.isMutation = false) (short : ¬reply.Lasts ttl) :
    ¬reply.Displaces ttl now := by
  rintro (changes | ⟨value, some, _⟩)
  · exact Bool.false_ne_true (idle.symm.trans changes)
  · exact short ⟨value, some⟩

theorem Reply.idle_of_late {ttl : Span} {now : Instant} {reply : Reply} (lasts : reply.Lasts ttl)
    (late : now.after? (reply.headers.maxAge.getD ttl) = none) : ¬reply.Displaces ttl now := by
  rintro (changes | ⟨_, _, fits⟩)
  · exact Bool.false_ne_true (lasts.not_mutation.symm.trans changes)
  · rw [late] at fits
    cases fits

/-! A cache and its clock -/

inductive CacheEvent where
  | offer (uri : String) (reply : Reply)
  | lookup (uri : String)
  | clear
  | advance (span : Span)
  deriving DecidableEq, Repr

/-- An event leaves what is stored under a name: the cache is not cleared, and what is offered for
the name displaces nothing. -/
def CacheEvent.Spares (ttl : Span) (now : Instant) (uri : String) : CacheEvent → Prop
  | .offer name reply => name = uri → ¬reply.Displaces ttl now
  | .clear => False
  | _ => True

structure ClockedCache where
  now : Instant
  cache : MemoryCache
  deriving DecidableEq, Repr

namespace ClockedCache

def step (s : ClockedCache) : CacheEvent → ClockedCache
  | .offer uri reply => { s with cache := (s.cache.update s.now uri reply).2 }
  | .lookup uri => { s with cache := (s.cache.lookup s.now uri).2 }
  | .clear => { s with cache := s.cache.clear }
  | .advance span => { s with now := ⟨s.now.nanos + span.nanos⟩ }

def run (s : ClockedCache) (events : List CacheEvent) : ClockedCache := events.foldl step s

theorem run_concat (s : ClockedCache) (events : List CacheEvent) (event : CacheEvent) :
    s.run (events ++ [event]) = (s.run events).step event :=
  List.foldl_concat step s event events

def served (s : ClockedCache) (uri : String) : Option Reply := (s.cache.lookup s.now uri).1

structure Sound (ttl : Span) (s : ClockedCache) : Prop where
  unique : (Table.keys s.cache.entries).Nodup
  ttl : s.cache.defaultTtl = ttl

theorem sound_new (now : Instant) (ttl : Span) (bound : Nat) :
    Sound ttl ⟨now, .new ttl bound⟩ :=
  ⟨List.nodup_nil, rfl⟩

theorem Sound.sublist {ttl : Span} {s : ClockedCache} (sound : s.Sound ttl) {m : MemoryCache}
    (less : m.entries.Sublist s.cache.entries) (same : m.defaultTtl = s.cache.defaultTtl) :
    Sound ttl { s with cache := m } :=
  ⟨(less.map Prod.fst).nodup sound.unique, same.trans sound.ttl⟩

theorem lookup_sublist (m : MemoryCache) (now : Instant) (uri : String) :
    (m.lookup now uri).2.entries.Sublist m.entries := by
  unfold MemoryCache.lookup
  split
  · exact List.Sublist.refl _
  · split
    · exact List.Sublist.refl _
    · exact List.filter_sublist

theorem Sound.step {ttl : Span} {s : ClockedCache} (sound : s.Sound ttl) (event : CacheEvent) :
    (s.step event).Sound ttl := by
  cases event with
  | offer uri reply =>
    change Sound ttl { s with cache := (s.cache.update s.now uri reply).2 }
    have room := s.cache.makeRoom_sublist s.now uri
    have same := s.cache.defaultTtl_makeRoom s.now uri
    have updating := s.cache.updating s.now uri reply
    generalize s.cache.update s.now uri reply = updated at updating
    cases updating with
    | erased changes => exact sound.sublist List.filter_sublist rfl
    | passed idle short => exact sound
    | brokenOff lasts late => exact sound.sublist room same
    | stored lasts expiry ends =>
      exact ⟨Table.nodup_put (sound.sublist room same).unique _ _, same.trans sound.ttl⟩
  | lookup uri => exact sound.sublist (lookup_sublist _ _ _) (by
      unfold MemoryCache.lookup
      split
      · rfl
      · split <;> rfl)
  | clear => exact ⟨List.nodup_nil, sound.ttl⟩
  | advance span => exact ⟨sound.unique, sound.ttl⟩

theorem Sound.run {ttl : Span} {s : ClockedCache} (sound : s.Sound ttl)
    (events : List CacheEvent) : (s.run events).Sound ttl := by
  induction events using List.reverseRecOn with
  | nil => exact sound
  | append_singleton events event ih =>
    rw [run_concat]
    exact ih.step event

theorem at?_of_sublist {t t' : Table String CacheEntry} (unique : (Table.keys t).Nodup)
    (less : t'.Sublist t) {uri : String} {e : CacheEntry} (found : Table.at? t' uri = some e) :
    Table.at? t uri = some e :=
  Table.at?_of_mem unique (less.subset (Table.mem_of_at? found))

/-- An entry after an event is the reply that was offered, or it was there and the event spares it. -/
theorem entry_step {ttl : Span} {s : ClockedCache} (sound : s.Sound ttl) {event : CacheEvent}
    {uri : String} {e : CacheEntry}
    (found : Table.at? (s.step event).cache.entries uri = some e) :
    (event = .offer uri e.reply ∧
      (e.reply.headers.operation = .read ∨ e.reply.headers.operation = .observe)) ∨
    Table.at? s.cache.entries uri = some e ∧ event.Spares ttl s.now uri := by
  cases event with
  | offer name reply =>
    change Table.at? (s.cache.update s.now name reply).2.entries uri = some e at found
    have room := s.cache.makeRoom_sublist s.now name
    have updating := s.cache.updating s.now name reply
    generalize s.cache.update s.now name reply = updated at updating found
    rw [← sound.ttl]
    -- Only what is stored puts an entry under the name; all else adds nothing.
    cases updating with
    | erased changes =>
      rw [Table.at?_erase] at found
      split at found
      · cases found
      · rename_i other
        exact Or.inr ⟨found, fun same => absurd same other⟩
    | passed idle short => exact Or.inr ⟨found, fun _ => Reply.idle_of_short idle short⟩
    | brokenOff lasts late =>
      exact Or.inr ⟨at?_of_sublist sound.unique room found, fun _ => Reply.idle_of_late lasts late⟩
    | stored lasts expiry ends =>
      rw [Table.at?_put] at found
      split at found
      · rename_i here
        cases found
        exact Or.inl ⟨congrArg (CacheEvent.offer · reply) here, lasts.1⟩
      · rename_i other
        exact Or.inr ⟨at?_of_sublist sound.unique room found, fun same => absurd same other⟩
  | lookup name => exact Or.inr ⟨at?_of_sublist sound.unique (lookup_sublist _ _ _) found, trivial⟩
  | clear => cases found
  | advance span => exact Or.inr ⟨found, trivial⟩

structure OfferedLast (ttl : Span) (s : ClockedCache) (uri : String) (reply : Reply)
    (before after : List CacheEvent) : Prop where
  value : reply.headers.operation = .read ∨ reply.headers.operation = .observe
  spared : ∀ mid event rest, after = mid ++ event :: rest →
    event.Spares ttl (s.run (before ++ .offer uri reply :: mid)).now uri

theorem OfferedLast.concat {ttl : Span} {s : ClockedCache} {uri : String} {reply : Reply}
    {before after : List CacheEvent} (last : s.OfferedLast ttl uri reply before after)
    {event : CacheEvent}
    (spares : event.Spares ttl (s.run (before ++ .offer uri reply :: after)).now uri) :
    s.OfferedLast ttl uri reply before (after ++ [event]) := by
  refine ⟨last.value, fun mid next rest split => ?_⟩
  cases rest using List.reverseRecOn with
  | nil =>
    obtain ⟨rfl, same⟩ := List.append_inj' split rfl
    cases same
    exact spares
  | append_singleton rest final =>
    rw [← List.cons_append, ← List.append_assoc] at split
    exact last.spared mid next rest (List.append_inj' split rfl).1

/-- Every entry is the last reply that was stored under its name. -/
theorem entry_offered_last {ttl : Span} (now : Instant) (bound : Nat) (events : List CacheEvent)
    {uri : String} {e : CacheEntry}
    (found : Table.at? (run ⟨now, .new ttl bound⟩ events).cache.entries uri = some e) :
    ∃ before after, events = before ++ .offer uri e.reply :: after ∧
      OfferedLast ttl ⟨now, .new ttl bound⟩ uri e.reply before after := by
  induction events using List.reverseRecOn with
  | nil => cases found
  | append_singleton events event ih =>
    rw [run_concat] at found
    rcases entry_step ((sound_new now ttl bound).run events) found with
      ⟨rfl, value⟩ | ⟨old, spares⟩
    · exact ⟨events, [], rfl, value, fun mid _ _ split => by cases mid <;> cases split⟩
    · obtain ⟨before, after, rfl, last⟩ := ih old
      exact ⟨before, after ++ [event], by simp, last.concat spares⟩

theorem entry_of_served {s : ClockedCache} {uri : String} {reply : Reply}
    (served : s.served uri = some reply) :
    ∃ e, Table.at? s.cache.entries uri = some e ∧ e.reply = reply := by
  unfold ClockedCache.served MemoryCache.lookup at served
  split at served
  · cases served
  · rename_i e found
    split at served
    · exact ⟨e, found, Option.some.inj served⟩
    · cases served

end ClockedCache

open ClockedCache

/-- For every sequence of offers, look-ups, clearings and advances of the clock: a reply that is
served for a name is one to READ or OBSERVE, the cache was not cleared since it was offered, and
what was offered for the name since then answers no mutation and was not stored, because it may be
served for no time at all or its expiry is past the last reading of the clock. -/
theorem served_reply_not_displaced (now : Instant) (ttl : Span) (bound : Nat)
    (events : List CacheEvent) (uri : String) (reply : Reply)
    (served : (run ⟨now, .new ttl bound⟩ events).served uri = some reply) :
    ∃ before after, events = before ++ .offer uri reply :: after ∧
      (reply.headers.operation = .read ∨ reply.headers.operation = .observe) ∧
      .clear ∉ after ∧
      ∀ mid later rest, after = mid ++ .offer uri later :: rest →
        ¬later.Displaces ttl (run ⟨now, .new ttl bound⟩ (before ++ .offer uri reply :: mid)).now := by
  obtain ⟨e, found, rfl⟩ := entry_of_served served
  obtain ⟨before, after, split, last⟩ := entry_offered_last now bound events found
  refine ⟨before, after, split, last.value, fun cleared => ?_, fun mid later rest later_split =>
    last.spared mid _ rest later_split rfl⟩
  obtain ⟨mid, rest, cleared_split⟩ := List.append_of_mem cleared
  exact last.spared mid _ rest cleared_split

def sensorReply (payload : Octets) (maxAge : Span) : Reply :=
  .notification .read "dev" "/temp" { payload, maxAge := some maxAge }

theorem second_read_not_displaced :
    let events : List CacheEvent :=
      [.offer "coap://dev/temp" (sensorReply [50, 48] (.ofSeconds 60)), .advance (.ofSeconds 1),
        .offer "coap://dev/temp" (sensorReply [50, 49] (.ofSeconds 60)), .lookup "coap://dev/temp"]
    let s := run ⟨⟨0⟩, .new (.ofSeconds 60) 16⟩ events
    s.served "coap://dev/temp" = some (sensorReply [50, 49] (.ofSeconds 60)) ∧
    ∃ before after,
      events = before ++ .offer "coap://dev/temp" (sensorReply [50, 49] (.ofSeconds 60)) :: after ∧
      .clear ∉ after := by
  intro events s
  have served : s.served "coap://dev/temp" = some (sensorReply [50, 49] (.ofSeconds 60)) := by
    decide +kernel
  obtain ⟨before, after, split, _, kept, _⟩ :=
    served_reply_not_displaced ⟨0⟩ (.ofSeconds 60) 16 events _ _ served
  exact ⟨served, before, after, split, kept⟩

/-- A reply that may be served for no time at all comes second. It is not stored, and the first one
is served after it. -/
theorem zero_lifetime_serves_older :
    ¬∀ (now : Instant) (ttl : Span) (bound : Nat) (events : List CacheEvent) (uri : String)
      (reply : Reply), (run ⟨now, .new ttl bound⟩ events).served uri = some reply →
      ∃ before after, events = before ++ .offer uri reply :: after ∧
        (reply.headers.operation = .read ∨ reply.headers.operation = .observe) ∧
        ∀ later, .offer uri later ∈ after → later.headers.operation = .unobserve := by
  intro all
  have served : (run ⟨⟨0⟩, .new (.ofSeconds 60) 16⟩
      [.offer "coap://dev/temp" (sensorReply [50, 48] (.ofSeconds 60)),
        .offer "coap://dev/temp" (sensorReply [50, 49] ⟨0⟩)]).served "coap://dev/temp" =
      some (sensorReply [50, 48] (.ofSeconds 60)) := by
    decide +kernel
  obtain ⟨before, after, split, _, others⟩ := all _ _ _ _ _ _ served
  cases before with
  | nil =>
    cases split
    exact nomatch others (sensorReply [50, 49] ⟨0⟩) (List.mem_singleton.mpr rfl)
  | cons first before =>
    have second : CacheEvent.offer "coap://dev/temp" (sensorReply [50, 48] (.ofSeconds 60)) ∈
        [CacheEvent.offer "coap://dev/temp" (sensorReply [50, 49] ⟨0⟩)] := by
      rw [(List.cons.inj split).2]
      exact List.mem_append_right _ (List.mem_cons_self ..)
    revert second
    decide +kernel

end ProtocolGateway
