import Mathlib
import ProtocolGateway.Proofs.CanonicalUri
import ProtocolGateway.Proofs.Routing.Crossing
import ProtocolGateway.Proofs.Routing.Expiry
import ProtocolGateway.Proofs.Routing.Invalidation

/-!
What the interconnection stage does to its observers and to its cache, for one request and for one
answer: who stands afterwards, and how long the cache may keep what it was given.
-/

namespace ProtocolGateway

/-! The cache -/

namespace ReplyCache

/-- The lifetime of replies that name none, where replies are kept at all. -/
def ttl? : ReplyCache → Option Span
  | .off => none
  | .memory m => some m.defaultTtl

theorem ttl_lookup (c : ReplyCache) (now : Instant) (key : String) :
    (c.lookup now key).2.ttl? = c.ttl? := by
  cases c with
  | off => rfl
  | memory m =>
    change some (m.lookup now key).2.defaultTtl = some m.defaultTtl
    unfold MemoryCache.lookup
    split
    · rfl
    · split <;> rfl

theorem ttl_update (c : ReplyCache) (now : Instant) (key : String) (r : Reply) :
    (c.update now key r).2.ttl? = c.ttl? := by
  cases c with
  | off => rfl
  | memory m =>
    change some (m.update now key r).2.defaultTtl = some m.defaultTtl
    have updating := m.updating now key r
    generalize m.update now key r = updated at updating
    cases updating with
    | erased | passed => rfl
    | stored | brokenOff => exact congrArg some (m.defaultTtl_makeRoom now key)

theorem update_completes {c : ReplyCache} {now : Instant} (key : String) {r : Reply}
    (named : ∀ d, r.headers.maxAge = some d → (now.after? d).isSome)
    (unnamed : ∀ d, c.ttl? = some d → (now.after? d).isSome) : (c.update now key r).1 = true := by
  cases c with
  | off => rfl
  | memory m =>
    change (m.update now key r).1 = true
    rw [m.update_completes, ← Instant.isSome_after?]
    intro _
    cases age : r.headers.maxAge with
    | none => exact unnamed _ rfl
    | some d => exact named d age

end ReplyCache

/-! Subscriptions -/

namespace Subscriptions

theorem observed_of_count {r r' : Subscriptions} {key : String}
    (same : r'.observerCount key = r.observerCount key) (observed : r.Observed key) :
    r'.Observed key := by
  rw [observed_iff] at observed ⊢
  rw [same]
  exact observed

theorem Observed.recorded {r : Subscriptions} {key : String} (observed : r.Observed key) :
    r.Recorded key := by
  obtain ⟨e, member, stands⟩ := observed
  exact ⟨e, member, fun empty => List.not_mem_nil (empty ▸ stands)⟩

theorem recorded_of_waits {r : Subscriptions} {key : String} {p : ProtocolName} {s : Sequence}
    (waits : 0 < r.waits key p s) : r.Recorded key := by
  by_contra nobody
  have none : r.waits key p s = 0 := by
    apply total_eq_zero
    intro e member
    have empty : e.2 = [] := by
      by_contra some
      exact nobody ⟨e, member, some⟩
    simp [empty]
  omega

theorem waits_subscribe_pos {r : Subscriptions} (keyed : r.Keyed) (uri : String) (p : ProtocolName)
    (s : Sequence) : 0 < (r.subscribe uri p (.once s)).waits uri p s := by
  have more := (enrols_subscribe keyed uri p s).waits uri p s
  rw [if_pos ⟨rfl, rfl, rfl⟩] at more
  by_contra none
  have before : r.waits uri p s = 0 := by omega
  have vacant : r.vacant uri p s = 1 := by
    have absent := not_mem_of_waits_eq_zero before
    simp [Subscriptions.vacant, absent]
  omega

end Subscriptions

namespace Interconnection

variable {ic : Interconnection} {now : Instant}

/-! Answers -/

theorem observerCount_removeStanding {key key' : String} (other : key ≠ key') (ps : List ProtocolName)
    (r : Subscriptions) :
    (removeStanding key ps r).observerCount key' = r.observerCount key' := by
  induction ps generalizing r with
  | nil => rfl
  | cons p rest ih => exact (ih _).trans (r.observerCount_remove_other other p .standing)

theorem Settled.observerCount {ic' : Interconnection} {about key : String} {m : Message} {l : ReplyTo}
    (settled : ic.Settled now about l m ic')
    (kept : ∀ x, m = .error x → x.headers.operation = .observe → about ≠ key) :
    ic'.subscriptions.observerCount key = ic.subscriptions.observerCount key := by
  cases settled with
  | stored | still => rfl
  | failed x observe => exact observerCount_removeStanding (kept x rfl observe) _ _

theorem Settled.ttl {ic' : Interconnection} {about : String} {m : Message} {l : ReplyTo}
    (settled : ic.Settled now about l m ic') : ic'.cache.ttl? = ic.cache.ttl? := by
  cases settled with
  | stored r completed => exact ic.cache.ttl_update now about r
  | failed | still => rfl

/-- What an answer does to the stage, beside the receivers that it takes out. -/
structure Tells (ic : Interconnection) (now : Instant) (m : Message) (about : String)
    (ic' : Interconnection) (result : StageResult) : Prop where
  observers : ∀ key, (∀ x, m = .error x → x.headers.operation = .observe → about ≠ key) →
    ic'.subscriptions.observerCount key = ic.subscriptions.observerCount key
  ttl : ic'.cache.ttl? = ic.cache.ttl?
  /-- The cache breaks off only where the clock cannot hold a lifetime. -/
  unbroken : (∀ r, m = .reply r → ∀ d, r.headers.maxAge = some d → (now.after? d).isSome) →
    (∀ d, ic.cache.ttl? = some d → (now.after? d).isSome) → result ≠ .error .clockOverflow

theorem onAnswer_tells {e : Envelope} {m : Message} {about : String}
    (read : readAnswer ic.token e = .ok (m, about)) :
    Tells ic now m about (ic.onAnswer now e).1 (ic.onAnswer now e).2 := by
  have drained (key : String) :=
    ic.subscriptions.observerCount_drain about key (m.kind == .reply)
  obtain ⟨ic', r, crossing, released⟩ := onAnswer_released now read
  rw [crossing]
  cases released with
  | unlisted listed subscriptions given nobody =>
    rw [given] at drained
    exact ⟨fun key _ => drained key, rfl, fun _ _ broken => nomatch broken⟩
  | brokenOff l subscriptions given present r reply broken =>
    rw [given] at drained
    refine ⟨fun key _ => drained key, ic.cache.ttl_update now about r, fun named unnamed _ => ?_⟩
    -- Only what is to be stored can be broken off, and its lifetime is on the clock.
    cases broken.symm.trans (ReplyCache.update_completes about (named r reply) unnamed)
  | settled l subscriptions given present ic' settled =>
    rw [given] at drained
    refine ⟨fun key kept => (settled.observerCount kept).trans (drained key), settled.ttl,
      fun _ _ broken => ?_⟩
    generalize e.write _ _ = written at broken
    cases written with
    | ok _ => cases broken
    | error _ => cases broken

/-! Requests -/

inductive Way (k : Keyring) (ic ic' : Interconnection) (r : Request) (p : ProtocolName)
    (uri : ResourceUri) : Option Hop → Prop where
  | cached (hit : Reply) (reads : r.headers.operation = .read) (held : ic.cache.Holds uri.text hit) :
      Way k ic ic' r p uri (some (k.turned (.reply (hit.retagged r.sequence)) p r.sequence))
  | acknowledged (ends : r.headers.operation = .unobserve) :
      Way k ic ic' r p uri (some (k.turned (.reply (Reply.forRequest r [])) p r.sequence))
  | joined (observes : r.headers.operation = .observe) (already : ic.subscriptions.Observed uri.text) :
      Way k ic ic' r p uri none
  | onward (waits : r.headers.operation.isObserveFamily = false →
        0 < ic'.subscriptions.waits uri.text p r.sequence)
      (first : r.headers.operation = .observe → ¬ic.subscriptions.Observed uri.text ∧
        ic'.subscriptions.Observed uri.text)
      (last : r.headers.operation = .unobserve → ¬ic'.subscriptions.Observed uri.text) :
      Way k ic ic' r p uri (some (k.onward r p uri))

structure Asks (k : Keyring) (ic : Interconnection) (r : Request) (p : ProtocolName)
    (uri : ResourceUri) (ic' : Interconnection) (out : Option Hop) : Prop where
  way : Way k ic ic' r p uri out
  ttl : ic'.cache.ttl? = ic.cache.ttl?
  less : ReplyCache.Shrinks ic.cache ic'.cache
  /-- An UNOBSERVE that goes on has been the last. -/
  observers : ∀ key, ic.subscriptions.Observed key →
    (r.headers.operation = .unobserve → out = some (k.onward r p uri) → uri.text ≠ key) →
    ic'.subscriptions.Observed key
  /-- Nobody comes to stand without an OBSERVE. -/
  only : ∀ key, ic'.subscriptions.Observed key →
    ic.subscriptions.Observed key ∨ uri.text = key ∧ r.headers.operation = .observe

section Resolved

variable {k : Keyring} (token : ic.token = k.interconnection) {r : Request} (p : ProtocolName)
  (uri : ResourceUri)

/-- A request that only waits for its answer leaves all observers where they are. -/
theorem asks_subscribed (keyed : ic.subscriptions.Keyed)
    (plain : r.headers.operation.isObserveFamily = false) {cache : ReplyCache}
    (ttl : cache.ttl? = ic.cache.ttl?) (less : ReplyCache.Shrinks ic.cache cache) :
    Asks k ic r p uri { ic with
      subscriptions := ic.subscriptions.subscribe uri.text p (.once r.sequence)
      cache := cache } (some (k.onward r p uri)) := by
  have same (key : String) := ic.subscriptions.observerCount_subscribe uri.text key p r.sequence
  refine ⟨.onward (fun _ => Subscriptions.waits_subscribe_pos keyed uri.text p r.sequence)
    (fun observes => ?_) (fun ends => ?_), ttl, less,
    fun key observed _ => Subscriptions.observed_of_count (same key) observed,
    fun key observed => Or.inl (Subscriptions.observed_of_count (same key).symm observed)⟩
  · rw [observes] at plain
    cases plain
  · rw [ends] at plain
    cases plain

include token

theorem resolved_read (keyed : ic.subscriptions.Keyed) (reads : r.headers.operation = .read) :
    ∃ ic' out, ic.resolved now (k.asking r p 2) r p uri = (ic', .ok out) ∧
      Asks k ic r p uri ic' out := by
  cases found : (ic.cache.lookup now uri.text).1 with
  | some hit =>
    obtain ⟨same, held⟩ := ReplyCache.lookup_hit found
    have pair : ic.cache.lookup now uri.text = (some hit, ic.cache) := Prod.ext found same
    refine ⟨ic, _, ?_, .cached hit reads held, rfl, .refl _, fun _ observed _ => observed,
      fun _ observed => Or.inl observed⟩
    simp only [resolved, reads, pair, token, answer_asking]
    rw [← token]
  | none =>
    refine ⟨_, _, ?_, asks_subscribed p uri keyed (by rw [reads]; rfl) (ic.cache.ttl_lookup now uri.text)
      (ic.cache.lookup_shrinks now uri.text)⟩
    have pair : ic.cache.lookup now uri.text = (none, (ic.cache.lookup now uri.text).2) :=
      Prod.ext found rfl
    simp only [resolved, reads, token, route_asking]
    rw [pair]

theorem resolved_observe (observes : r.headers.operation = .observe) :
    ∃ ic' out, ic.resolved now (k.asking r p 2) r p uri = (ic', .ok out) ∧
      Asks k ic r p uri ic' out := by
  have stands : (ic.subscriptions.observe uri.text p r.sequence).2.Observed uri.text :=
    Subscriptions.observed_iff.mpr (ic.subscriptions.observerCount_observe uri.text p r.sequence)
  have others {key : String} (other : uri.text ≠ key) :=
    ic.subscriptions.observerCount_observe_other other p r.sequence
  have observers (key : String) (observed : ic.subscriptions.Observed key) :
      (ic.subscriptions.observe uri.text p r.sequence).2.Observed key := by
    by_cases here : uri.text = key
    · exact here ▸ stands
    · exact Subscriptions.observed_of_count (others here) observed
  have only (key : String) (observed : (ic.subscriptions.observe uri.text p r.sequence).2.Observed key) :
      ic.subscriptions.Observed key ∨ uri.text = key ∧ r.headers.operation = .observe := by
    by_cases here : uri.text = key
    · exact Or.inr ⟨here, observes⟩
    · exact Or.inl (Subscriptions.observed_of_count (others here).symm observed)
  have already := ic.subscriptions.observe_already uri.text p r.sequence
  rw [← Subscriptions.observed_iff] at already
  -- The first observer is sent on; a later one joins those that wait.
  cases told : (ic.subscriptions.observe uri.text p r.sequence).1 with
  | true =>
    refine ⟨{ ic with subscriptions := (ic.subscriptions.observe uri.text p r.sequence).2 }, none, ?_,
      .joined observes (already.mp told), rfl, .refl _, fun key observed _ => observers key observed, only⟩
    simp only [resolved, observes, told, ↓reduceIte]
  | false =>
    refine ⟨{ ic with subscriptions := (ic.subscriptions.observe uri.text p r.sequence).2 }, _, ?_,
      .onward (fun plain => ?_) (fun _ => ⟨fun observed => ?_, stands⟩) (fun ends => ?_), rfl, .refl _,
      fun key observed _ => observers key observed, only⟩
    · simp only [resolved, observes, told, Bool.false_eq_true, ↓reduceIte, token, route_asking]
    · rw [observes] at plain
      cases plain
    · rw [already.mpr observed] at told
      cases told
    · cases observes.symm.trans ends

theorem resolved_unobserve (ends : r.headers.operation = .unobserve) :
    ∃ ic' out, ic.resolved now (k.asking r p 2) r p uri = (ic', .ok out) ∧
      Asks k ic r p uri ic' out := by
  have count := ic.subscriptions.observerCount_unobserve uri.text p r.sequence
  have others {key : String} (other : uri.text ≠ key) :=
    ic.subscriptions.observerCount_unobserve_other other p r.sequence
  have only (key : String) (observed : (ic.subscriptions.unobserve uri.text p r.sequence).2.Observed key) :
      ic.subscriptions.Observed key ∨ uri.text = key ∧ r.headers.operation = .observe := by
    left
    by_cases here : uri.text = key
    · rw [← here, Subscriptions.observed_iff, count] at observed
      exact here ▸ Subscriptions.observed_of_unobserve observed
    · exact Subscriptions.observed_of_count (others here).symm observed
  by_cases left : (ic.subscriptions.unobserve uri.text p r.sequence).1 = 0
  · refine ⟨{ ic with subscriptions := (ic.subscriptions.unobserve uri.text p r.sequence).2 }, _, ?_,
      .onward (fun plain => ?_) (fun observes => ?_) (fun _ observed => ?_), rfl, .refl _,
      fun key observed last => Subscriptions.observed_of_count (others (last ends rfl)) observed, only⟩
    · simp only [resolved, ends, left, gt_iff_lt, Nat.lt_irrefl, ↓reduceIte, token, route_asking]
    · rw [ends] at plain
      cases plain
    · cases ends.symm.trans observes
    · rw [Subscriptions.observed_iff, count, left] at observed
      cases observed
  · refine ⟨{ ic with subscriptions := (ic.subscriptions.unobserve uri.text p r.sequence).2 }, _, ?_,
      .acknowledged ends, rfl, .refl _, fun key observed _ => ?_, only⟩
    · simp only [resolved, ends, Nat.pos_of_ne_zero left, ↓reduceIte, token, answer_asking]
    · by_cases here : uri.text = key
      · rw [← here, Subscriptions.observed_iff, count]
        exact Nat.pos_of_ne_zero left
      · exact Subscriptions.observed_of_count (others here) observed

theorem resolved_asks (keyed : ic.subscriptions.Keyed) :
    ∃ ic' out, ic.resolved now (k.asking r p 2) r p uri = (ic', .ok out) ∧
      Asks k ic r p uri ic' out := by
  cases operation : r.headers.operation with
  | read => exact resolved_read token p uri keyed operation
  | observe => exact resolved_observe token p uri operation
  | unobserve => exact resolved_unobserve token p uri operation
  | create | update | delete =>
    refine ⟨_, _, ?_, asks_subscribed p uri keyed (by rw [operation]; rfl) rfl (.refl _)⟩
    simp only [resolved, operation, token, route_asking]

end Resolved

theorem onRequest_asks {k : Keyring} (token : ic.token = k.interconnection)
    (keyed : ic.subscriptions.Keyed) {r : Request} (p : ProtocolName) {uri : ResourceUri}
    (sequenced : r.isSequenced = true) (named : ResourceUri.parse r.headers.path = .ok uri) :
    ∃ ic' out, ic.onRequest now (k.asking r p 2) = (ic', .ok out) ∧ Asks k ic r p uri ic' out := by
  unfold onRequest
  rw [token, readRequest_asking k r p 2 sequenced]
  dsimp only
  rw [named]
  exact resolved_asks token p uri keyed

theorem onRequest_refused {k : Keyring} (token : ic.token = k.interconnection) {r : Request}
    (p : ProtocolName) {cause : ProtocolError} (sequenced : r.isSequenced = true)
    (unreadable : ResourceUri.parse r.headers.path = .error cause) :
    ic.onRequest now (k.asking r p 2) =
      (ic, .ok (some (k.turned (.error (r.refusal cause)) p r.sequence))) := by
  unfold onRequest
  rw [token, readRequest_asking k r p 2 sequenced]
  dsimp only
  rw [unreadable]
  exact congrArg (Prod.mk ic) (answer_asking k r p _ _)

end Interconnection

end ProtocolGateway
