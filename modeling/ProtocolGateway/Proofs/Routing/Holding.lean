import Mathlib
import ProtocolGateway.Proofs.Data.Table
import ProtocolGateway.Routing.ReplyCache

/-!
What a cache holds. A look-up throws entries out at most, and an update brings in at most the reply
it is made with, under the name it is made with. An update that breaks off has made room for a reply
and brings in nothing.
-/

namespace ProtocolGateway

namespace ReplyCache

/-- The cache has a reply under a name, fresh or not. -/
def Holds (c : ReplyCache) (key : String) (reply : Reply) : Prop :=
  match c with
  | .off => False
  | .memory m => ∃ e, (key, e) ∈ m.entries ∧ e.reply = reply

def Shrinks (c c' : ReplyCache) : Prop := ∀ key reply, c'.Holds key reply → c.Holds key reply

theorem Shrinks.refl (c : ReplyCache) : Shrinks c c := fun _ _ held => held

theorem shrinks_of_subset {m m' : MemoryCache} (subset : m'.entries ⊆ m.entries) :
    Shrinks (.memory m) (.memory m') := by
  rintro key reply ⟨e, member, rfl⟩
  exact ⟨e, subset member, rfl⟩

theorem lookup_hit {c : ReplyCache} {now : Instant} {key : String} {hit : Reply}
    (found : (c.lookup now key).1 = some hit) :
    (c.lookup now key).2 = c ∧ c.Holds key hit := by
  cases c with
  | off => cases found
  | memory m =>
    simp only [lookup, MemoryCache.lookup] at found ⊢
    cases entry : Table.at? m.entries key with
    | none => simp [entry] at found
    | some e =>
      by_cases fresh : e.isFresh now = true
      · simp only [entry, fresh, ↓reduceIte, Option.some.injEq] at found ⊢
        exact ⟨trivial, e, Table.mem_of_at? entry, found⟩
      · simp [entry, fresh] at found

theorem lookup_shrinks (c : ReplyCache) (now : Instant) (key : String) :
    Shrinks c (c.lookup now key).2 := by
  cases c with
  | off => exact Shrinks.refl _
  | memory m =>
    change Shrinks (.memory m) (.memory (m.lookup now key).2)
    apply shrinks_of_subset
    unfold MemoryCache.lookup
    split
    · exact fun _ member => member
    · split
      · exact fun _ member => member
      · exact fun _ member => List.mem_of_mem_filter member

end ReplyCache

namespace MemoryCache

theorem dropOldest_sublist (bound fuel : Nat) (es : Table String CacheEntry) :
    (dropOldest bound fuel es).Sublist es := by
  induction fuel generalizing es with
  | zero => exact List.Sublist.refl _
  | succ fuel ih =>
    unfold dropOldest
    split
    · exact List.Sublist.refl _
    · split
      · exact (ih _).trans List.filter_sublist
      · exact List.Sublist.refl _

theorem evict_sublist (m : MemoryCache) (now : Instant) :
    (m.evict now).entries.Sublist m.entries :=
  (dropOldest_sublist _ _ _).trans List.filter_sublist

theorem makeRoom_sublist (c : MemoryCache) (now : Instant) (uri : String) :
    (c.makeRoom now uri).entries.Sublist c.entries := by
  unfold makeRoom
  split
  · exact c.evict_sublist now
  · exact List.Sublist.refl _

theorem defaultTtl_makeRoom (c : MemoryCache) (now : Instant) (uri : String) :
    (c.makeRoom now uri).defaultTtl = c.defaultTtl := by
  unfold makeRoom
  split <;> rfl

end MemoryCache

/-! Updates -/

/-- Replies to READ and OBSERVE that may be served for some time. -/
def Reply.Lasts (ttl : Span) (reply : Reply) : Prop :=
  (reply.headers.operation = .read ∨ reply.headers.operation = .observe) ∧
    (reply.headers.maxAge.getD ttl).nanos ≠ 0

instance (ttl : Span) (reply : Reply) : Decidable (reply.Lasts ttl) :=
  inferInstanceAs (Decidable (_ ∧ _))

theorem Reply.Lasts.not_mutation {ttl : Span} {reply : Reply} (lasts : reply.Lasts ttl) :
    reply.headers.operation.isMutation = false := by
  rcases lasts.1 with op | op <;> rw [op] <;> rfl

namespace MemoryCache

inductive Updating (c : MemoryCache) (now : Instant) (uri : String) (reply : Reply) :
    Bool × MemoryCache → Prop
  | erased (changes : reply.headers.operation.isMutation = true) :
      Updating c now uri reply (true, { c with entries := Table.erase c.entries uri })
  | passed (idle : reply.headers.operation.isMutation = false) (short : ¬reply.Lasts c.defaultTtl) :
      Updating c now uri reply (true, c)
  | stored (lasts : reply.Lasts c.defaultTtl) (expiry : Instant)
      (ends : now.after? (reply.headers.maxAge.getD c.defaultTtl) = some expiry) :
      Updating c now uri reply (true, { c.makeRoom now uri with
        entries := Table.put uri ⟨reply, now, expiry⟩ (c.makeRoom now uri).entries })
  | brokenOff (lasts : reply.Lasts c.defaultTtl)
      (late : now.after? (reply.headers.maxAge.getD c.defaultTtl) = none) :
      Updating c now uri reply (false, c.makeRoom now uri)

theorem updating (c : MemoryCache) (now : Instant) (uri : String) (reply : Reply) :
    Updating c now uri reply (c.update now uri reply) := by
  unfold update
  dsimp only
  by_cases changes : reply.headers.operation.isMutation = true
  · rw [if_pos changes]
    exact .erased changes
  have idle := Bool.eq_false_iff.mpr changes
  rw [if_neg changes]
  by_cases value : reply.headers.operation = .read ∨ reply.headers.operation = .observe
  · rw [if_pos value]
    by_cases zero : (c.lifetime reply).nanos = 0
    · rw [if_pos zero]
      exact .passed idle fun lasts => lasts.2 zero
    · rw [if_neg zero]
      unfold store
      cases ends : now.after? (c.lifetime reply) with
      | some expiry => exact .stored ⟨value, zero⟩ expiry ends
      | none => exact .brokenOff ⟨value, zero⟩ ends
  · rw [if_neg value]
    exact .passed idle fun lasts => value lasts.1

end MemoryCache

namespace ReplyCache

variable {c : ReplyCache} {now : Instant} {uri key : String} {reply kept : Reply}

/-- An update leaves what was there, and may put in the reply itself when it is one to READ or
OBSERVE. -/
theorem holds_update (holds : (c.update now uri reply).2.Holds key kept) :
    c.Holds key kept ∨
      key = uri ∧ kept = reply ∧
        (reply.headers.operation = .read ∨ reply.headers.operation = .observe) := by
  cases c with
  | off => exact Or.inl holds
  | memory m =>
    change ReplyCache.Holds (.memory (m.update now uri reply).2) key kept at holds
    have updating := m.updating now uri reply
    generalize m.update now uri reply = updated at updating holds
    obtain ⟨e, member, rfl⟩ := holds
    cases updating with
    | erased changes => exact Or.inl ⟨e, List.mem_of_mem_filter member, rfl⟩
    | passed idle short => exact Or.inl ⟨e, member, rfl⟩
    | brokenOff lasts late => exact Or.inl ⟨e, (m.makeRoom_sublist now uri).subset member, rfl⟩
    | stored lasts expiry ends =>
      rcases Table.mem_put member with same | old
      · cases same
        exact Or.inr ⟨rfl, rfl, lasts.1⟩
      · exact Or.inl ⟨e, (m.makeRoom_sublist now uri).subset old, rfl⟩

theorem shrinks_of_broken (broken : (c.update now uri reply).1 = false) :
    Shrinks c (c.update now uri reply).2 := by
  cases c with
  | off => cases broken
  | memory m =>
    change (m.update now uri reply).1 = false at broken
    change Shrinks (.memory m) (.memory (m.update now uri reply).2)
    have updating := m.updating now uri reply
    generalize m.update now uri reply = updated at updating broken ⊢
    cases updating with
    | erased | passed | stored => cases broken
    | brokenOff lasts late => exact shrinks_of_subset (m.makeRoom_sublist now uri).subset

end ReplyCache

end ProtocolGateway
