import Mathlib
import ProtocolGateway.Proofs.Routing.Observing

/-!
What becomes of a cached reply when its resource is changed. An acknowledged change throws it out as
long as somebody is on record for the resource; when nobody is, the stage stops before it asks the
cache.
-/

namespace ProtocolGateway

/-! The cache -/

/-- A change is always taken in, and leaves nothing under its name. -/
theorem ReplyCache.update_mutation (c : ReplyCache) (now : Instant) (key : String) {r : Reply}
    (mutation : r.headers.operation.isMutation = true) :
    (c.update now key r).1 = true ∧ ∀ kept, ¬(c.update now key r).2.Holds key kept := by
  cases c with
  | off => exact ⟨rfl, fun _ => id⟩
  | memory m =>
    have erased : m.update now key r = (true, { m with entries := Table.erase m.entries key }) :=
      if_pos mutation
    simp only [update, erased]
    refine ⟨trivial, ?_⟩
    rintro _ ⟨e, member, rfl⟩
    simpa using List.of_mem_filter member

/-! Who is on record -/

namespace Subscriptions

def Recorded (r : Subscriptions) (key : String) : Prop := ∃ e ∈ r.under key, e.2 ≠ []

theorem delivered_all (mine : List Subscriber) (empty : delivered true mine = []) : mine = [] := by
  have length := (List.mergeSort_perm (mine.filter fun s => s.isOnce || true) Subscriber.before).length_eq
  unfold delivered at empty
  rw [empty] at length
  simpa using length.symm

theorem drain_reply (r : Subscriptions) (key : String) :
    (r.Recorded key → ∃ x l, (r.drain key true).1 = some (x :: l)) ∧
      (¬r.Recorded key → (r.drain key true).1 = none ∨ (r.drain key true).1 = some []) := by
  unfold Recorded under drain
  cases found : Table.at? r.entries key with
  | none => simp
  | some ss =>
    dsimp only [Option.getD_some]
    -- Sorting only moves entries, so whether anybody is listed does not depend on it.
    generalize listed : ((ss.map fun e => (e.1, delivered true e.2)).filter fun e => !e.2.isEmpty) = l
    have order := List.mergeSort_perm l fun a b => !b.1.before a.1
    constructor
    · rintro ⟨e, member, some⟩
      have there : (e.1, delivered true e.2) ∈ l := by
        rw [← listed]
        refine List.mem_filter.mpr ⟨List.mem_map_of_mem member, ?_⟩
        simpa using fun empty => some (delivered_all e.2 empty)
      cases sorted : l.mergeSort fun a b => !b.1.before a.1 with
      | nil =>
        rw [sorted] at order
        rw [← order.nil_eq] at there
        cases there
      | cons x rest => exact ⟨x, rest, rfl⟩
    · intro nobody
      have none : l = [] := by
        rw [← listed]
        apply List.filter_eq_nil_iff.mpr
        rintro _ member
        obtain ⟨e, old, rfl⟩ := List.mem_map.mp member
        have empty : e.2 = [] := by
          by_contra some
          exact nobody ⟨e, old, some⟩
        simp [empty, delivered]
      rw [none]
      exact Or.inr (by simp)

end Subscriptions

namespace Interconnection

variable {ic : Interconnection} {key : String}

/-! What the stage puts into the cache -/

theorem holds_resolved {now : Instant} {e : Envelope} {r : Request} {p : ProtocolName}
    {uri : ResourceUri} {kept : Reply} (held : (ic.resolved now e r p uri).1.cache.Holds key kept) :
    ic.cache.Holds key kept := by
  unfold resolved at held
  dsimp only at held
  cases operation : r.headers.operation with
  | read =>
    have shrinks := ic.cache.lookup_shrinks now uri.text
    simp only [operation] at held
    generalize ic.cache.lookup now uri.text = result at held shrinks
    obtain ⟨hit, cache⟩ := result
    cases hit with
    | some hit => exact shrinks key kept held
    | none => exact shrinks key kept held
  | create | update | delete | observe | unobserve =>
    simp only [operation] at held
    exact held

/-- Whatever comes in, the stage keeps nothing that was not there or came with it. -/
theorem holds_receive {now : Instant} {source : Stage} {e : Envelope} {kept : Reply}
    (held : (ic.receive now source e).1.cache.Holds key kept) :
    ic.cache.Holds key kept ∨ source = .manager ∧ e.content = .reply kept := by
  unfold receive at held
  cases source with
  | input =>
    dsimp only at held
    unfold onRequest at held
    split at held
    · exact Or.inl held
    · split at held
      · exact Or.inl (holds_resolved held)
      · exact Or.inl held
  | manager =>
    dsimp only at held
    cases read : readAnswer ic.token e with
    | error h =>
      rw [onAnswer_unread read] at held
      exact Or.inl held
    | ok about =>
      obtain ⟨ic', r, crossing, released⟩ := onAnswer_released now read
      rw [crossing] at held
      cases released with
      | unlisted => exact Or.inl held
      | brokenOff l subscriptions drained present r reply broken =>
        exact Or.inl (ReplyCache.shrinks_of_broken broken key kept held)
      | settled l subscriptions drained present ic' settled =>
        refine (settled.holds held).imp_right fun ⟨_, same, _⟩ => ⟨rfl, ?_⟩
        rw [(content_of_readAnswer read).1, same]
  | interconnection | output => exact Or.inl held

theorem holds_after {visits : List Visit} {kept : Reply}
    (held : (ic.after visits).cache.Holds key kept) :
    ic.cache.Holds key kept ∨
      ∃ v ∈ visits, v.source = .manager ∧ v.envelope.content = .reply kept := by
  induction visits generalizing ic with
  | nil => exact Or.inl held
  | cons v rest ih =>
    rcases ih held with before | ⟨w, member, brought⟩
    · rcases holds_receive before with old | brought
      · exact Or.inl old
      · exact Or.inr ⟨v, List.mem_cons_self, brought⟩
    · exact Or.inr ⟨w, List.mem_cons_of_mem v member, brought⟩

/-! An acknowledged change -/

variable {now : Instant} {e : Envelope} {r : Reply}

theorem Released.recorded {ic' : Interconnection} {result : StageResult}
    (released : ic.Released now e (.reply r) key ic' result)
    (recorded : ic.subscriptions.Recorded key) (completed : (ic.cache.update now key r).1 = true) :
    ic'.cache = (ic.cache.update now key r).2 ∧ ∃ l, result = (guarded (e.write ic.token (.replyTo l))).map fun e =>
      some ⟨.interconnection, .output, e⟩ := by
  obtain ⟨x, l, listed⟩ := (ic.subscriptions.drain_reply key).1 recorded
  cases released with
  | unlisted given subscriptions drained nobody =>
    cases (congrArg Prod.fst drained).symm.trans listed
    rcases nobody with none | empty
    · cases none
    · cases empty
  | brokenOff l subscriptions drained present r' same broken =>
    cases same
    cases broken.symm.trans completed
  | settled l subscriptions drained present ic' settled =>
    cases settled with
    | stored r' _ => exact ⟨rfl, l, rfl⟩
    | still m plain => exact absurd rfl (plain r)

theorem onAnswer_recorded (read : readAnswer ic.token e = .ok (.reply r, key))
    (mutation : r.headers.operation.isMutation = true) (recorded : ic.subscriptions.Recorded key)
    (kept : Reply) : ¬(ic.onAnswer now e).1.cache.Holds key kept := by
  obtain ⟨completed, nothing⟩ := ic.cache.update_mutation now key mutation
  obtain ⟨ic', result, crossing, released⟩ := onAnswer_released now read
  rw [crossing]
  change ¬ic'.cache.Holds key kept
  rw [(released.recorded recorded completed).1]
  exact nothing kept

theorem onAnswer_unrecorded (read : readAnswer ic.token e = .ok (.reply r, key))
    (nobody : ¬ic.subscriptions.Recorded key) :
    (ic.onAnswer now e).2 = .error (.fault (.noSubscription key)) ∧
      (ic.onAnswer now e).1.cache = ic.cache := by
  have listed := (ic.subscriptions.drain_reply key).2 nobody
  obtain ⟨ic', result, crossing, released⟩ := onAnswer_released now read
  rw [crossing]
  cases released with
  | unlisted => exact ⟨rfl, rfl⟩
  | brokenOff l subscriptions drained present | settled l subscriptions drained present =>
    have found : (ic.subscriptions.drain key true).1 = some l := congrArg Prod.fst drained
    rw [found] at listed
    rcases listed with none | empty
    · cases none
    · exact absurd (Option.some.inj empty) present

end Interconnection

/-- When somebody is on record for a resource, an acknowledged change of it is the end of every cached
reply: whatever comes later, a look-up finds only what came later. When nobody is on record, the
acknowledgement is a fault and the cache stays as it was. -/
theorem change_invalidates_for_recorded (ic : Interconnection) (now : Instant) (e : Envelope)
    (r : Reply) (key : String)
    (read : Interconnection.readAnswer ic.token e = .ok (.reply r, key))
    (mutation : r.headers.operation.isMutation = true) :
    (ic.subscriptions.Recorded key → ∀ later t hit,
      ((((ic.receive now .manager e).1.after later).cache.lookup t key).1 = some hit →
        ∃ v ∈ later, v.source = .manager ∧ v.envelope.content = .reply hit)) ∧
    (¬ic.subscriptions.Recorded key →
      (ic.receive now .manager e).2 = .error (.fault (.noSubscription key)) ∧
        (ic.receive now .manager e).1.cache = ic.cache) := by
  constructor
  · intro recorded later t hit found
    have held := (ReplyCache.lookup_hit found).2
    rcases Interconnection.holds_after held with before | brought
    · exact absurd before (Interconnection.onAnswer_recorded read mutation recorded hit)
    · exact brought
  · intro nobody
    exact Interconnection.onAnswer_unrecorded read nobody

def Visit.updated (s : Sequence) : Visit :=
  ⟨⟨0⟩, .manager, (Keyring.minted 0).wrap
    (.reply (.notification .update "dev" "/temp" ⟨[], none, none, some s⟩)) (.of "coap")⟩

theorem update_invalidates :
    let ic := (Interconnection.new (Keyring.minted 0).interconnection (.memory .standard)).after
      [.asking .read 1 "app", .telling [21], .asking .update 2 "app"]
    let ic' := (ic.receive ⟨0⟩ .manager (Visit.updated 2).envelope).1
    (ic.cache.lookup ⟨0⟩ "coap://dev/temp").1.isSome ∧
      (ic'.cache.lookup ⟨0⟩ "coap://dev/temp").1 = none := by
  intro ic ic'
  have recorded : ic.subscriptions.Recorded "coap://dev/temp" :=
    ⟨(.of "app", [.once 2]), by decide +kernel, by decide⟩
  have read : Interconnection.readAnswer ic.token (Visit.updated 2).envelope =
      .ok (.reply (.notification .update "dev" "/temp" ⟨[], none, none, some 2⟩),
        "coap://dev/temp") := by decide +kernel
  refine ⟨by decide +kernel, ?_⟩
  cases found : (ic'.cache.lookup ⟨0⟩ "coap://dev/temp").1 with
  | none => rfl
  | some hit =>
    obtain ⟨_, member, _⟩ := (change_invalidates_for_recorded ic ⟨0⟩ _ _ _ read rfl).1 recorded []
      ⟨0⟩ hit found
    cases member

/-- An UPDATE whose caller was answered by a notification that came first. -/
def overtaken : List Visit := [.asking .update 1 "app", .telling [21]]

/-- Its acknowledgement finds nobody on record, and what was cached before it is served after it. -/
theorem update_overtaken_serves_old :
    ¬∀ (visits : List Visit) (now : Instant) (e : Envelope) (r : Reply) (key : String),
      let ic := (Interconnection.new (Keyring.minted 0).interconnection (.memory .standard)).after visits
      Interconnection.readAnswer ic.token e = .ok (.reply r, key) →
      r.headers.operation.isMutation = true → ∀ hit,
      (((ic.receive now .manager e).1.cache.lookup now key).1 = some hit) →
        ¬ic.cache.Holds key hit := by
  intro all
  let hit : Reply := .notification .observe "dev" "/temp" { payload := [21] }
  have found : ((((Interconnection.new (Keyring.minted 0).interconnection
      (.memory .standard)).after overtaken).receive ⟨0⟩ .manager
        (Visit.updated 1).envelope).1.cache.lookup ⟨0⟩ "coap://dev/temp").1 = some hit := by
    decide +kernel
  have stored : (((Interconnection.new (Keyring.minted 0).interconnection
      (.memory .standard)).after overtaken).cache.lookup ⟨0⟩ "coap://dev/temp").1 = some hit := by
    decide +kernel
  exact all overtaken ⟨0⟩ (Visit.updated 1).envelope _ "coap://dev/temp"
    (by decide +kernel : Interconnection.readAnswer _ (Visit.updated 1).envelope =
      .ok (.reply (.notification .update "dev" "/temp" ⟨[], none, none, some 1⟩), _))
    rfl hit found (ReplyCache.lookup_hit stored).2

end ProtocolGateway
