import Mathlib
import ProtocolGateway.Proofs.Routing.LiveCache

/-!
What a cache shows of itself. It keeps expired entries until it comes across them, finds the oldest
entry by its time, and cleans up on look-ups. None of this can be seen: it serves what a cache of
live entries serves.
-/

namespace ProtocolGateway

/-! The oldest entry -/

namespace MemoryCache

def elder (best f : String × CacheEntry) : String × CacheEntry :=
  if f.2.storedAt.nanos < best.2.storedAt.nanos then f else best

theorem elder_spec (best f : String × CacheEntry) :
    (elder best f = best ∨ elder best f = f) ∧
      (elder best f).2.storedAt.nanos ≤ best.2.storedAt.nanos ∧
      (elder best f).2.storedAt.nanos ≤ f.2.storedAt.nanos := by
  unfold elder
  split
  · rename_i earlier
    exact ⟨Or.inr rfl, Nat.le_of_lt earlier, Nat.le_refl _⟩
  · rename_i later
    exact ⟨Or.inl rfl, Nat.le_refl _, Nat.le_of_not_lt later⟩

/-- The search for the oldest entry ends with one of those searched, and no other was stored before
it. -/
theorem eldest_spec (best : String × CacheEntry) (rest : Table String CacheEntry) :
    rest.foldl elder best ∈ best :: rest ∧
      ∀ f ∈ best :: rest, (rest.foldl elder best).2.storedAt.nanos ≤ f.2.storedAt.nanos := by
  induction rest generalizing best with
  | nil => simp
  | cons f rest ih =>
    obtain ⟨member, least⟩ := ih (elder best f)
    obtain ⟨one, before, before'⟩ := elder_spec best f
    have head := least (elder best f) List.mem_cons_self
    constructor
    · rcases List.mem_cons.mp member with same | later
      · rcases one with first | second
        · exact List.mem_cons.mpr (Or.inl (same.trans first))
        · exact List.mem_cons_of_mem best (List.mem_cons.mpr (Or.inl (same.trans second)))
      · exact List.mem_cons_of_mem best (List.mem_cons_of_mem f later)
    · intro g among
      rcases List.mem_cons.mp among with rfl | among
      · exact Nat.le_trans head before
      · rcases List.mem_cons.mp among with rfl | later
        · exact Nat.le_trans head before'
        · exact least g (List.mem_cons_of_mem _ later)

def Ordered (es : Table String CacheEntry) : Prop :=
  es.Pairwise fun a b => a.2.storedAt.nanos < b.2.storedAt.nanos

theorem oldest_head {es later : Table String CacheEntry} {first : String × CacheEntry}
    (same : es.Perm (first :: later)) (ordered : Ordered (first :: later)) :
    oldest? es = some first.1 := by
  cases es with
  | nil => exact absurd same.symm.length_eq (by simp)
  | cons best rest =>
    obtain ⟨member, least⟩ := eldest_spec best rest
    change some (rest.foldl elder best).1 = some first.1
    rcases List.mem_cons.mp (same.subset member) with found | behind
    · exact congrArg (fun e => some e.1) found
    · -- Whatever stands behind the head was stored after it.
      have after := (List.pairwise_cons.mp ordered).1 _ behind
      have before := least first (same.symm.subset List.mem_cons_self)
      omega

theorem erase_head {es later : Table String CacheEntry} {first : String × CacheEntry}
    (same : es.Perm (first :: later)) (unique : (Table.keys es).Nodup) :
    (Table.erase es first.1).Perm later := by
  have alone : first.1 ∉ Table.keys later :=
    (List.nodup_cons.mp ((same.map Prod.fst).nodup unique)).1
  have kept : (Table.erase es first.1).Perm (Table.erase (first :: later) first.1) :=
    same.filter _
  rw [Table.erase_cons, if_pos rfl, Table.erase_of_not_mem alone] at kept
  exact kept

theorem dropOldest_perm {bound fuel : Nat} {es live : Table String CacheEntry} (room : 0 < bound)
    (enough : es.length ≤ fuel) (unique : (Table.keys es).Nodup) (same : es.Perm live)
    (ordered : Ordered live) :
    (dropOldest bound fuel es).Perm (live.drop (live.length + 1 - bound)) := by
  -- Every round erases the head of the live entries, which is the oldest of them.
  induction fuel generalizing es live with
  | zero =>
    have empty : es = [] := List.eq_nil_of_length_eq_zero (Nat.le_zero.mp enough)
    subst empty
    have none : live = [] := same.symm.eq_nil
    simp [none, dropOldest]
  | succ fuel ih =>
    have length := same.length_eq
    by_cases fits : es.length < bound
    · have nothing : live.length + 1 - bound = 0 := by omega
      simpa [dropOldest, fits, nothing] using same
    · cases live with
      | nil =>
        simp only [List.length_nil] at length
        omega
      | cons first later =>
        have oldest := oldest_head same ordered
        have others := erase_head same unique
        have fewer : (Table.erase es first.1).length ≤ fuel := by
          rw [List.length_cons] at length
          rw [others.length_eq]
          omega
        have rest := ih fewer (Table.nodup_erase unique first.1) others
          (List.pairwise_cons.mp ordered).2
        have one : (first :: later).length + 1 - bound = (later.length + 1 - bound) + 1 := by
          rw [List.length_cons] at length ⊢
          omega
        rw [one, List.drop_succ_cons]
        simpa [dropOldest, fits, oldest] using rest

end MemoryCache

theorem MemoryCache.lookup_cases (m : MemoryCache) (now : Instant) (uri : String) :
    (m.lookup now uri).2 = m ∨
      (∃ e, Table.at? m.entries uri = some e ∧ e.isFresh now = false) ∧
        (m.lookup now uri).2 = { m with entries := Table.erase m.entries uri } := by
  unfold MemoryCache.lookup
  cases found : Table.at? m.entries uri with
  | none => exact Or.inl rfl
  | some e =>
    cases fresh : e.isFresh now with
    | true =>
      left
      simp [fresh]
    | false =>
      right
      constructor
      · exact ⟨e, rfl, fresh⟩
      · simp [fresh]

/-! One run beside the other -/

/-- A live cache holds the live entries of a cache, in the order in which they were stored. -/
structure Tracks (c : LiveCache) (s : ClockedCache) : Prop where
  now : s.now = c.now
  ttl : s.cache.defaultTtl = c.ttl
  bound : s.cache.maxEntries = c.bound
  room : 0 < c.bound
  unique : (Table.keys s.cache.entries).Nodup
  size : s.cache.entries.length ≤ c.bound
  live : c.entries.Perm (s.cache.entries.filter fun e => e.2.isFresh c.now)
  ordered : MemoryCache.Ordered c.entries
  past : ∀ e ∈ c.entries, e.2.storedAt.nanos ≤ c.now.nanos

namespace Tracks

variable {c : LiveCache} {s : ClockedCache}

theorem new (now : Instant) (ttl : Span) (capacity : Nat) :
    Tracks (.new now ttl capacity) ⟨now, .new ttl capacity⟩ where
  now := rfl
  ttl := rfl
  bound := rfl
  room := Nat.le_max_right capacity 1
  unique := List.nodup_nil
  size := Nat.zero_le _
  live := List.Perm.refl _
  ordered := List.Pairwise.nil
  past := fun _ none => nomatch none

theorem length_le (tracks : Tracks c s) : c.entries.length ≤ s.cache.entries.length := by
  rw [tracks.live.length_eq]
  exact List.length_filter_le _ _

theorem unique_live (tracks : Tracks c s) : (Table.keys c.entries).Nodup := by
  have fresh := Table.nodup_filter tracks.unique fun e => e.2.isFresh c.now
  exact (tracks.live.map Prod.fst).symm.nodup fresh

theorem at?_live (tracks : Tracks c s) (uri : String) :
    Table.at? c.entries uri =
      (Table.at? s.cache.entries uri).filter fun e => e.isFresh c.now := by
  rw [Table.at?_perm tracks.unique_live tracks.live,
    Table.at?_filter tracks.unique fun e => e.isFresh c.now]

theorem served (tracks : Tracks c s) (uri : String) : s.served uri = c.served uri := by
  unfold ClockedCache.served LiveCache.served MemoryCache.lookup
  rw [tracks.at?_live uri, tracks.now]
  cases found : Table.at? s.cache.entries uri with
  | none => rfl
  | some e => cases fresh : e.isFresh c.now <;> simp [fresh, Option.filter]

theorem filter (tracks : Tracks c s) (keep : String × CacheEntry → Bool) :
    Tracks { c with entries := c.entries.filter keep }
      { s with cache := { s.cache with entries := s.cache.entries.filter keep } } where
  now := tracks.now
  ttl := tracks.ttl
  bound := tracks.bound
  room := tracks.room
  unique := Table.nodup_filter tracks.unique keep
  size := Nat.le_trans (List.length_filter_le _ _) tracks.size
  live := by
    have both := tracks.live.filter keep
    rw [List.filter_filter] at both
    rw [List.filter_filter]
    simpa only [Bool.and_comm] using both
  ordered := tracks.ordered.sublist List.filter_sublist
  past := fun e member => tracks.past e (List.mem_of_mem_filter member)

theorem clear (tracks : Tracks c s) :
    Tracks (c.step .clear) (s.step .clear) := by
  have none := tracks.filter fun _ => false
  simp only [List.filter_false] at none
  exact none

theorem advance (tracks : Tracks c s) (span : Span) :
    Tracks (c.step (.advance span)) (s.step (.advance span)) where
  now := by
    change (⟨s.now.nanos + span.nanos⟩ : Instant) = ⟨c.now.nanos + span.nanos⟩
    rw [tracks.now]
  ttl := tracks.ttl
  bound := tracks.bound
  room := tracks.room
  unique := tracks.unique
  size := tracks.size
  live := by
    have both := tracks.live.filter fun e => e.2.isFresh ⟨c.now.nanos + span.nanos⟩
    rw [List.filter_filter] at both
    apply both.trans
    -- What is fresh later is fresh now.
    apply List.Perm.of_eq
    apply List.filter_congr
    intro e _
    have later : (c.step (.advance span)).now.nanos = c.now.nanos + span.nanos := rfl
    simp only [CacheEntry.isFresh, ← Bool.decide_and]
    apply decide_eq_decide.mpr
    omega
  ordered := tracks.ordered.sublist List.filter_sublist
  past := by
    intro e member
    exact Nat.le_trans (tracks.past e (List.mem_of_mem_filter member)) (Nat.le_add_right _ _)

theorem lookup (tracks : Tracks c s) (uri : String) :
    Tracks (c.step (.lookup uri)) (s.step (.lookup uri)) := by
  change Tracks c { s with cache := (s.cache.lookup s.now uri).2 }
  rcases s.cache.lookup_cases s.now uri with same | ⟨⟨e, found, stale⟩, erased⟩
  · rw [same]
    exact tracks
  · have gone : uri ∉ Table.keys c.entries := by
      intro known
      obtain ⟨x, member, rfl⟩ := List.mem_map.mp known
      have fresh := tracks.at?_live x.1
      rw [found, Table.at?_of_mem tracks.unique_live member, Option.filter_some, ← tracks.now,
        stale] at fresh
      cases fresh
    have left := tracks.filter fun x => decide (x.1 ≠ uri)
    have same : c.entries.filter (fun x => decide (x.1 ≠ uri)) = c.entries :=
      Table.erase_of_not_mem gone
    rw [same] at left
    rw [erased]
    exact left

/-! What makes room -/

/-- A name that is known to the cache alone has an entry there that is not live. -/
theorem length_lt (tracks : Tracks c s) {uri : String}
    (known : uri ∈ Table.keys s.cache.entries) (gone : uri ∉ Table.keys c.entries) :
    c.entries.length < s.cache.entries.length := by
  obtain ⟨e, member, rfl⟩ := List.mem_map.mp known
  rw [tracks.live.length_eq]
  apply List.length_filter_lt_length_iff_exists.mpr
  refine ⟨e, member, ?_⟩
  intro fresh
  exact gone (Table.mem_keys (tracks.live.symm.subset (List.mem_filter.mpr ⟨member, fresh⟩)))

/-- The room that a cache makes for a name is the room that the live cache makes. -/
structure Room (c : LiveCache) (uri : String) (m : MemoryCache) : Prop where
  bound : m.maxEntries = c.bound
  unique : (Table.keys m.entries).Nodup
  size : (Table.erase m.entries uri).length < c.bound
  live : ((Table.erase m.entries uri).filter fun e => e.2.isFresh c.now).Perm (c.spared uri)

theorem room_kept (tracks : Tracks c s) {uri : String}
    (room : uri ∈ Table.keys s.cache.entries ∨ s.cache.entries.length < c.bound) :
    Room c uri s.cache := by
  have size := tracks.size
  have fewer : (Table.erase s.cache.entries uri).length < c.bound := by
    rcases room with known | fits
    · obtain ⟨e, member, here⟩ := List.mem_map.mp known
      have less : (Table.erase s.cache.entries uri).length < s.cache.entries.length :=
        List.length_filter_lt_length_iff_exists.mpr ⟨e, member, by simpa using here⟩
      omega
    · exact Nat.lt_of_le_of_lt (List.length_filter_le _ _) fits
  have own : Table.has c.entries uri ∨ c.entries.length < c.bound := by
    by_cases known : uri ∈ Table.keys c.entries
    · left
      exact Table.has_iff.mpr known
    · right
      rcases room with stale | fits
      · have less := tracks.length_lt stale known
        omega
      · have less := tracks.length_le
        omega
  refine ⟨tracks.bound, tracks.unique, fewer, ?_⟩
  unfold LiveCache.spared
  rw [if_pos own]
  have both : (Table.erase c.entries uri).Perm
      (Table.erase (s.cache.entries.filter fun e => e.2.isFresh c.now) uri) :=
    tracks.live.filter _
  unfold Table.erase at both ⊢
  rw [List.filter_comm]
  exact both.symm

/-- A new name comes to a full cache: what is not fresh goes, and if that is nothing, the entry
stored longest ago. -/
theorem room_made (tracks : Tracks c s) {uri : String}
    (new : uri ∉ Table.keys s.cache.entries) : Room c uri (s.cache.evict c.now) := by
  have room := tracks.room
  have unknown : uri ∉ Table.keys c.entries := by
    intro known
    obtain ⟨e, member, rfl⟩ := List.mem_map.mp known
    exact new (Table.mem_keys (List.mem_of_mem_filter (tracks.live.subset member)))
  have less := s.cache.evict_sublist c.now
  have left : (s.cache.evict c.now).entries.Perm (c.spared uri) := by
    rw [LiveCache.spared_new unknown (Nat.le_trans tracks.length_le tracks.size)]
    have fresh := Table.nodup_filter tracks.unique fun e => e.2.isFresh c.now
    change (MemoryCache.dropOldest s.cache.maxEntries _ _).Perm _
    rw [tracks.bound]
    exact MemoryCache.dropOldest_perm room (Nat.le_refl _) fresh tracks.live.symm tracks.ordered
  have absent : uri ∉ Table.keys (s.cache.evict c.now).entries := by
    intro known
    exact new ((less.map Prod.fst).subset known)
  rw [← Table.erase_of_not_mem absent] at left
  constructor
  · exact tracks.bound
  · exact List.Sublist.nodup (less.map Prod.fst) tracks.unique
  · rw [left.length_eq, LiveCache.spared_new unknown (Nat.le_trans tracks.length_le tracks.size),
      List.length_drop]
    omega
  · have live : (Table.erase (s.cache.evict c.now).entries uri).filter
        (fun e => e.2.isFresh c.now) = Table.erase (s.cache.evict c.now).entries uri := by
      apply List.filter_eq_self.mpr
      intro e member
      have kept := tracks.live.subset ((c.spared_sublist uri).subset (left.subset member))
      exact (List.mem_filter.mp kept).2
    rw [live]
    exact left

theorem makeRoom (tracks : Tracks c s) (uri : String) :
    Room c uri (s.cache.makeRoom c.now uri) := by
  unfold MemoryCache.makeRoom
  split
  · rename_i full
    apply tracks.room_made
    intro known
    simp [Table.has_iff.mpr known] at full
  · rename_i room
    apply tracks.room_kept
    by_cases known : uri ∈ Table.keys s.cache.entries
    · exact Or.inl known
    · right
      have unknown : Table.has s.cache.entries uri = false :=
        Bool.eq_false_iff.mpr fun has => known (Table.has_iff.mp has)
      simp only [unknown, Bool.not_false, MemoryCache.size, tracks.bound, ge_iff_le,
        Bool.true_and, decide_eq_true_eq, Nat.not_le] at room
      exact room

theorem stored (tracks : Tracks c s) {uri : String} {reply : Reply} (lasts : reply.Lasts c.ttl)
    (apart : ∀ e ∈ c.entries, e.2.storedAt = c.now → e.1 = uri) {m : MemoryCache}
    (room : Room c uri m) (ttl : m.defaultTtl = c.ttl) :
    Tracks { c with entries := c.spared uri ++ [(uri, c.entry reply)] }
      { s with cache := { m with entries := Table.put uri (c.entry reply) m.entries } } where
  now := tracks.now
  ttl := ttl
  bound := room.bound
  room := tracks.room
  unique := Table.nodup_put room.unique uri (c.entry reply)
  size := by
    have length := (Table.put_perm room.unique uri (c.entry reply)).length_eq
    have size := room.size
    simp only [List.length_append, List.length_singleton] at length
    change (Table.put uri (c.entry reply) m.entries).length ≤ c.bound
    omega
  live := by
    have last := (Table.put_perm room.unique uri (c.entry reply)).filter
      fun e => e.2.isFresh c.now
    have fresh : (c.entry reply).isFresh c.now = true := by
      have some := lasts.2
      simp only [CacheEntry.isFresh, LiveCache.entry, gt_iff_lt, decide_eq_true_eq]
      omega
    rw [List.filter_append, List.filter_singleton, fresh] at last
    exact (room.live.append_right _).symm.trans last.symm
  ordered := by
    apply List.pairwise_append.mpr
    refine ⟨tracks.ordered.sublist (c.spared_sublist uri), List.pairwise_singleton _ _, ?_⟩
    intro e member f new
    cases List.mem_singleton.mp new
    have old := (c.spared_sublist uri).subset member
    have past := tracks.past e old
    -- Whatever was stored at this instant had this name, and is not spared.
    have earlier : e.2.storedAt.nanos ≠ c.now.nanos := by
      intro same
      exact LiveCache.other_of_spared member (apart e old (congrArg Instant.mk same))
    change e.2.storedAt.nanos < c.now.nanos
    omega
  past := by
    intro e member
    rcases List.mem_append.mp member with old | new
    · exact tracks.past e ((c.spared_sublist uri).subset old)
    · cases List.mem_singleton.mp new
      exact Nat.le_refl _

theorem offer (tracks : Tracks c s) {uri : String} {reply : Reply} {rest : List CacheEvent}
    (awaits : c.Awaits (.offer uri reply :: rest)) :
    Tracks (c.step (.offer uri reply)) (s.step (.offer uri reply)) := by
  obtain ⟨now, cache⟩ := s
  obtain rfl : now = c.now := tracks.now
  have ttl : cache.defaultTtl = c.ttl := tracks.ttl
  change Tracks (c.offer uri reply) ⟨c.now, (cache.update c.now uri reply).2⟩
  unfold LiveCache.offer
  have room := tracks.makeRoom uri
  have updating := cache.updating c.now uri reply
  generalize cache.update c.now uri reply = updated at updating
  cases updating with
  | erased changes =>
    rw [if_pos changes]
    exact tracks.filter fun e => decide (e.1 ≠ uri)
  | passed idle short =>
    rw [ttl] at short
    rw [if_neg (Bool.eq_false_iff.mp idle), if_neg short]
    exact tracks
  | stored lasts expiry ends =>
    rw [ttl] at lasts ends
    obtain ⟨fits, apart⟩ := awaits.storing lasts
    cases ends.symm.trans fits
    rw [if_neg (Bool.eq_false_iff.mp lasts.not_mutation), if_pos lasts]
    exact tracks.stored lasts apart room ((cache.defaultTtl_makeRoom c.now uri).trans ttl)
  | brokenOff lasts late =>
    rw [ttl] at lasts late
    cases late.symm.trans (awaits.storing lasts).1

theorem step (tracks : Tracks c s) {event : CacheEvent} {rest : List CacheEvent}
    (awaits : c.Awaits (event :: rest)) : Tracks (c.step event) (s.step event) := by
  cases event with
  | offer uri reply => exact tracks.offer awaits
  | lookup uri => exact tracks.lookup uri
  | clear => exact tracks.clear
  | advance span => exact tracks.advance span

theorem run (tracks : Tracks c s) (events : List CacheEvent) (awaits : c.Awaits events) :
    Tracks (c.run events) (s.run events) := by
  -- What is awaited has to be carried along: it keeps a later entry from meeting one stored before.
  induction events generalizing c s with
  | nil => exact tracks
  | cons event rest ih => exact ih (tracks.step awaits) awaits.step

end Tracks

theorem Timely.tracks {now : Instant} {ttl : Span} {events : List CacheEvent}
    (timely : Timely ttl now events) (capacity : Nat) :
    Tracks (LiveCache.run (.new now ttl capacity) events)
      (ClockedCache.run ⟨now, .new ttl capacity⟩ events) := by
  apply (Tracks.new now ttl capacity).run
  exact ⟨timely, fun _ none => nomatch none⟩

/-- For every capacity and lifetime, and after every sequence of offers, look-ups, clearings and
advances of the clock in which no two names have entries stored at one instant and lifetimes fit the
clock: the cache is within its bound, it serves what a cache of live entries serves, whatever else
it still holds has expired, and with other look-ups on the way it would serve the same. -/
theorem cache_serves_live_entries (now : Instant) (ttl : Span) (capacity : Nat)
    (events : List CacheEvent) (timely : Timely ttl now events) :
    let s := ClockedCache.run ⟨now, .new ttl capacity⟩ events
    let live := LiveCache.run (.new now ttl capacity) events
    s.cache.size ≤ max capacity 1 ∧
    live.entries.Perm (s.cache.entries.filter fun e => e.2.isFresh s.now) ∧
    (∀ uri, s.served uri = live.served uri) ∧
    ∀ others : List CacheEvent,
      (others.filter fun e => !e.isLookup) = (events.filter fun e => !e.isLookup) →
      ∀ uri, (ClockedCache.run ⟨now, .new ttl capacity⟩ others).served uri = s.served uri := by
  intro s live
  have tracks : Tracks live s := timely.tracks capacity
  refine ⟨?_, ?_, tracks.served, ?_⟩
  · have size := tracks.size
    rw [LiveCache.bound_run] at size
    exact size
  · rw [tracks.now]
    exact tracks.live
  · intro others same uri
    have other := (timely.without_lookups same).tracks capacity
    have meet : LiveCache.run (.new now ttl capacity) others = live := by
      rw [← LiveCache.run_without_lookups _ others, same, LiveCache.run_without_lookups]
    rw [other.served, meet, tracks.served]

/-- Room for two. The first name's entry has expired when the third comes; the fourth then costs the
second its entry, whether or not the first was looked up in between. -/
theorem fourth_name_costs_oldest_live_entry :
    let reply := sensorReply [50, 48]
    let events : List CacheEvent :=
      [.offer "coap://dev/a" (reply (.ofSeconds 1)), .advance (.ofSeconds 1),
        .offer "coap://dev/b" (reply (.ofSeconds 60)), .lookup "coap://dev/a",
        .advance (.ofSeconds 1), .offer "coap://dev/c" (reply (.ofSeconds 60)),
        .advance (.ofSeconds 1), .offer "coap://dev/d" (reply (.ofSeconds 60))]
    let s := ClockedCache.run ⟨⟨0⟩, .new (.ofSeconds 30) 2⟩ events
    let without := events.filter fun e => !e.isLookup
    s.cache.size ≤ 2 ∧ s.served "coap://dev/b" = none ∧
    s.served "coap://dev/c" = some (reply (.ofSeconds 60)) ∧
    (ClockedCache.run ⟨⟨0⟩, .new (.ofSeconds 30) 2⟩ without).served "coap://dev/b" =
      s.served "coap://dev/b" := by
  intro reply events s without
  have timely : Timely (.ofSeconds 30) ⟨0⟩ events := by
    constructor
    · decide +kernel
    · decide +kernel
  obtain ⟨size, -, served, unread⟩ := cache_serves_live_entries ⟨0⟩ (.ofSeconds 30) 2 events timely
  refine ⟨size, ?_, ?_, unread without (by rw [List.filter_filter]; decide +kernel) _⟩
  · exact (served "coap://dev/b").trans (by decide +kernel)
  · exact (served "coap://dev/c").trans (by decide +kernel)

end ProtocolGateway
