import Mathlib
import ProtocolGateway.Text.Ascii
import ProtocolGateway.Message.Drafting
import ProtocolGateway.Proofs.Routing.LiveCache

/-!
Expiries and the clock. A reply that lasts is stored until its lifetime has passed, and the update that
stores it breaks off where the clock has no reading for that. Nothing else makes an update break off, and
no entry ever has an expiry that is not its lifetime later than the reading at which it was stored.
-/

namespace ProtocolGateway

/-! Readings -/

namespace Instant

theorem isSome_after? (i : Instant) (d : Span) :
    (i.after? d).isSome ↔ i.nanos + d.nanos < limit := by
  unfold after?
  split
  · rename_i early
    simp [early]
  · rename_i late
    simp [late]

theorem after?_eq_some {i j : Instant} {d : Span} (ends : i.after? d = some j) :
    j = ⟨i.nanos + d.nanos⟩ ∧ j.nanos < limit := by
  unfold after? at ends
  split at ends
  · rename_i early
    cases ends
    exact ⟨rfl, early⟩
  · cases ends

end Instant

/-! One update -/

namespace MemoryCache

variable {c : MemoryCache} {now : Instant} {uri : String} {reply : Reply}

/-- An update completes unless the reply is to be stored and the clock has no reading for its expiry. -/
theorem update_completes (c : MemoryCache) (now : Instant) (uri : String) (reply : Reply) :
    (c.update now uri reply).1 = true ↔
      (reply.Lasts c.defaultTtl →
        now.nanos + (reply.headers.maxAge.getD c.defaultTtl).nanos < Instant.limit) := by
  rw [← Instant.isSome_after?]
  have updating := c.updating now uri reply
  generalize c.update now uri reply = updated at updating
  cases updating with
  | erased changes =>
    exact ⟨fun _ lasts => absurd (lasts.not_mutation.symm.trans changes) Bool.false_ne_true, fun _ => rfl⟩
  | passed idle short => exact ⟨fun _ lasts => absurd lasts short, fun _ => rfl⟩
  | stored lasts expiry ends => simp [ends]
  | brokenOff lasts late => simp [late, lasts]

theorem at?_update (completed : (c.update now uri reply).1 = true) (lasts : reply.Lasts c.defaultTtl) :
    Table.at? (c.update now uri reply).2.entries uri =
      some ⟨reply, now, ⟨now.nanos + (reply.headers.maxAge.getD c.defaultTtl).nanos⟩⟩ := by
  have updating := c.updating now uri reply
  generalize c.update now uri reply = updated at updating completed
  cases updating with
  | erased changes => exact absurd (lasts.not_mutation.symm.trans changes) Bool.false_ne_true
  | passed idle short => exact absurd lasts short
  | brokenOff => cases completed
  | stored _ expiry ends => rw [Table.at?_put, if_pos rfl, (Instant.after?_eq_some ends).1]

theorem update_broken (broken : (c.update now uri reply).1 = false) :
    (c.update now uri reply).2 = c.makeRoom now uri := by
  have updating := c.updating now uri reply
  generalize c.update now uri reply = updated at updating broken
  cases updating with
  | erased | passed | stored => cases broken
  | brokenOff lasts late => rfl

end MemoryCache

/-! Histories -/

namespace ClockedCache

/-- Every entry expires its lifetime after the reading at which it was stored, and the clock gets there. -/
def Dated (ttl : Span) (s : ClockedCache) : Prop :=
  ∀ x ∈ s.cache.entries,
    x.2.expiresAt = ⟨x.2.storedAt.nanos + (x.2.reply.headers.maxAge.getD ttl).nanos⟩ ∧
      x.2.expiresAt.nanos < Instant.limit

variable {ttl : Span} {s : ClockedCache}

theorem Dated.sublist (dated : s.Dated ttl) {s' : ClockedCache}
    (less : s'.cache.entries.Sublist s.cache.entries) : s'.Dated ttl :=
  fun x member => dated x (less.subset member)

theorem Dated.offer (dated : s.Dated ttl) (sound : s.Sound ttl) (uri : String) (reply : Reply) :
    (s.step (.offer uri reply)).Dated ttl := by
  have room := s.cache.makeRoom_sublist s.now uri
  change Dated ttl { s with cache := (s.cache.update s.now uri reply).2 }
  have updating := s.cache.updating s.now uri reply
  generalize s.cache.update s.now uri reply = updated at updating
  cases updating with
  | erased changes => exact dated.sublist List.filter_sublist
  | passed idle short => exact dated
  | brokenOff lasts late => exact dated.sublist room
  | stored lasts expiry ends =>
    obtain ⟨due, reached⟩ := Instant.after?_eq_some ends
    intro x member
    rcases Table.mem_put member with rfl | old
    · rw [sound.ttl] at due
      exact ⟨due, reached⟩
    · exact dated x (room.subset old)

theorem Dated.step (dated : s.Dated ttl) (sound : s.Sound ttl) (event : CacheEvent) :
    (s.step event).Dated ttl := by
  cases event with
  | offer uri reply => exact dated.offer sound uri reply
  | lookup uri => exact dated.sublist (lookup_sublist s.cache s.now uri)
  | clear => exact dated.sublist (List.nil_sublist _)
  | advance span => exact dated

theorem Dated.run (dated : s.Dated ttl) (sound : s.Sound ttl) (events : List CacheEvent) :
    (s.run events).Dated ttl := by
  induction events generalizing s with
  | nil => exact dated
  | cons event rest ih => exact ih (dated.step sound event) (sound.step event)

end ClockedCache

open ClockedCache

/-- After every sequence of offers, look-ups, clearings and advances of the clock, also such as broke an
update off: an update with a reply completes unless the reply is one to READ or OBSERVE that may be served
for some time, and the clock has no reading so much later. When it completes, the reply that lasts is
stored until precisely then. When it breaks off, room has been made for the reply and nothing is stored.
No entry has another expiry, and none is past the last reading. -/
theorem update_completes_iff_expiry_fits (start : Instant) (ttl : Span) (capacity : Nat)
    (events : List CacheEvent) (uri : String) (reply : Reply) :
    let s := run ⟨start, .new ttl capacity⟩ events
    let lifetime := reply.headers.maxAge.getD ttl
    let updated := s.cache.update s.now uri reply
    (updated.1 = true ↔ (reply.Lasts ttl → s.now.nanos + lifetime.nanos < Instant.limit)) ∧
    (updated.1 = true → reply.Lasts ttl →
      Table.at? updated.2.entries uri = some ⟨reply, s.now, ⟨s.now.nanos + lifetime.nanos⟩⟩) ∧
    (updated.1 = false → updated.2 = s.cache.makeRoom s.now uri) ∧
    s.Dated ttl := by
  intro s lifetime updated
  have sound : s.Sound ttl := (sound_new start ttl capacity).run events
  have empty : Dated ttl ⟨start, .new ttl capacity⟩ := fun _ none => nomatch none
  have completes := s.cache.update_completes s.now uri reply
  rw [sound.ttl] at completes
  refine ⟨completes, fun completed lasts => ?_, MemoryCache.update_broken,
    empty.run (sound_new start ttl capacity) events⟩
  have stored := MemoryCache.at?_update completed (sound.ttl.symm ▸ lasts)
  rw [sound.ttl] at stored
  exact stored

/-- The longest default lifetime there is: a reply that names none is stored with it. -/
theorem longest_default_is_stored :
    let ttl := Span.ofMillis Word.max64
    let s := run ⟨⟨0⟩, .new ttl 16⟩ [.advance (.ofSeconds 1)]
    let reply := Reply.notification .read "dev" "/temp" { payload := [50, 48] }
    let updated := s.cache.update s.now "coap://dev/temp" reply
    updated.1 = true ∧ Table.at? updated.2.entries "coap://dev/temp" =
      some ⟨reply, s.now, ⟨s.now.nanos + ttl.nanos⟩⟩ := by
  intro ttl s reply updated
  obtain ⟨completes, stored, -⟩ := update_completes_iff_expiry_fits ⟨0⟩ ttl 16 [.advance (.ofSeconds 1)]
    "coap://dev/temp" reply
  have lasts : reply.Lasts ttl := by decide +kernel
  have completed : updated.1 = true := completes.mpr fun _ => by decide +kernel
  have unnamed : reply.headers.maxAge.getD ttl = ttl := rfl
  rw [unnamed] at stored
  refine ⟨completed, ?_⟩
  rw [stored completed lasts]

/-- A target that wants its reply kept for good names the longest lifetime there is. The update breaks off
even at the first reading of the clock. -/
theorem longest_lifetime_breaks_off :
    ¬∀ (ttl : Span) (capacity : Nat) (now : Instant) (uri : String) (r : Request)
      (calls : List DraftCall), ttl.nanos ≤ (Span.ofMillis Word.max64).nanos →
      now.nanos < Instant.limit → (∀ d, DraftCall.maxAge d ∈ calls → d.nanos ≤ Span.maxNanos) →
      ((MemoryCache.new ttl capacity).update now uri
        ((ReplyDraft.answering r).fillAll calls).finish).1 = true := by
  intro all
  have completes := all (.ofSeconds 30) 16 ⟨0⟩ "coap://dev/temp" (Request.new .read "/temp")
    [.payload (.new [50, 49]), .maxAge ⟨Span.maxNanos⟩] (by decide +kernel)
    (by decide +kernel) (by simp)
  revert completes
  decide +kernel

end ProtocolGateway
