import Mathlib
import ProtocolGateway.Proofs.Routing.Membership

/-!
The subscriptions as a set of triples: who waits, of which protocol, under which resource. Whatever
sequence of changes is made, each gives back what the set gives, and so does every question asked in
between.
-/

namespace ProtocolGateway

/-- One subscriber of one protocol under one resource. -/
structure Subscription where
  uri : String
  protocol : ProtocolName
  subscriber : Subscriber
  deriving DecidableEq

inductive Change where
  | subscribe (uri : String) (p : ProtocolName) (s : Subscriber)
  | observe (uri : String) (p : ProtocolName) (s : Sequence)
  | unobserve (uri : String) (p : ProtocolName) (s : Sequence)
  | remove (uri : String) (p : ProtocolName) (s : Subscriber)
  | drain (uri : String) (includeStanding : Bool)

inductive Outcome where
  | nothing
  | already (observed : Bool)
  | remaining (observers : Nat)
  | removed (listed : Bool)
  | drained (l : Option ReplyTo)

namespace Subscriptions

def perform (r : Subscriptions) : Change → Outcome × Subscriptions
  | .subscribe uri p s => (.nothing, r.subscribe uri p s)
  | .observe uri p s => (.already (r.observe uri p s).1, (r.observe uri p s).2)
  | .unobserve uri p s => (.remaining (r.unobserve uri p s).1, (r.unobserve uri p s).2)
  | .remove uri p s => (.removed (r.remove uri p s).1, (r.remove uri p s).2)
  | .drain uri includeStanding =>
    (.drained (r.drain uri includeStanding).1, (r.drain uri includeStanding).2)

def performAll (r : Subscriptions) (changes : List Change) : Subscriptions :=
  changes.foldl (fun r c => (r.perform c).2) r

end Subscriptions

/-! The set -/

/-- Subscriptions in no order, each of them once. -/
abbrev Roll := Finset Subscription

namespace Roll

def standing (S : Roll) (uri : String) : Finset ProtocolName :=
  (S.filter fun t => t.uri = uri ∧ t.subscriber = .standing).image (·.protocol)

def perform (S : Roll) : Change → Roll
  | .subscribe uri p s => insert ⟨uri, p, s⟩ S
  | .observe uri p s => insert ⟨uri, p, .once s⟩ (insert ⟨uri, p, .standing⟩ S)
  | .unobserve uri p s =>
    let left : Roll := S.erase ⟨uri, p, .standing⟩
    if left.standing uri = ∅ then insert ⟨uri, p, .once s⟩ left else left
  | .remove uri p s => S.erase ⟨uri, p, s⟩
  | .drain uri _ => S.filter fun t => t.uri = uri → t.subscriber = .standing

def performAll (S : Roll) (changes : List Change) : Roll := changes.foldl perform S

/-- A list of receivers is what a drain of a resource has to give: every protocol once, in the order of
the names, and with each of them, in order and once, all that wait and, when asked for, the standing
one. Protocols with nobody to list are left out. -/
structure Fits (S : Roll) (uri : String) (includeStanding : Bool) (l : ReplyTo) : Prop where
  names : l.Pairwise fun a b => a.1.before b.1 = true
  order : ∀ e ∈ l, e.2.Pairwise fun a b => a.before b = true ∧ a ≠ b
  filled : ∀ e ∈ l, e.2 ≠ []
  listed : ∀ p s, (∃ e ∈ l, e.1 = p ∧ s ∈ e.2) ↔
    ⟨uri, p, s⟩ ∈ S ∧ (s = .standing → includeStanding = true)

def Gives (S : Roll) : Change → Outcome → Prop
  | .subscribe .., o => o = .nothing
  | .observe uri _ _, o => o = .already (decide (S.standing uri ≠ ∅))
  | .unobserve uri p _, o => o = .remaining (standing (S.erase ⟨uri, p, .standing⟩) uri).card
  | .remove uri p s, o => o = .removed (decide (⟨uri, p, s⟩ ∈ S))
  | .drain uri includeStanding, o =>
    (∀ t ∈ S, t.uri ≠ uri) ∧ o = .drained none ∨
      (∃ t ∈ S, t.uri = uri) ∧ ∃ l, o = .drained (some l) ∧ S.Fits uri includeStanding l

theorem mem_standing {S : Roll} {uri : String} {p : ProtocolName} :
    p ∈ S.standing uri ↔ ⟨uri, p, .standing⟩ ∈ S := by
  unfold standing
  rw [Finset.mem_image]
  constructor
  · rintro ⟨⟨uri', q, s⟩, member, rfl⟩
    obtain ⟨listed, here, stands⟩ := Finset.mem_filter.mp member
    dsimp only at here stands
    rwa [← here, ← stands]
  · intro listed
    exact ⟨_, Finset.mem_filter.mpr ⟨listed, rfl, rfl⟩, rfl⟩

end Roll

/-! The set of what is kept -/

namespace Subscriptions

def all (r : Subscriptions) : List Subscription :=
  r.entries.flatMap fun e => e.2.flatMap fun f => f.2.map fun s => ⟨e.1, f.1, s⟩

def roll (r : Subscriptions) : Roll := r.all.toFinset

variable {r : Subscriptions}

theorem mem_all {t : Subscription} :
    t ∈ r.all ↔ ∃ e ∈ r.entries, e.1 = t.uri ∧ ∃ f ∈ e.2, f.1 = t.protocol ∧ t.subscriber ∈ f.2 := by
  obtain ⟨uri, p, s⟩ := t
  unfold all
  simp only [List.mem_flatMap, List.mem_map, Subscription.mk.injEq]
  constructor
  · rintro ⟨e, there, f, member, s', listed, rfl, rfl, rfl⟩
    exact ⟨e, there, rfl, f, member, rfl, listed⟩
  · rintro ⟨e, there, rfl, f, member, rfl, listed⟩
    exact ⟨e, there, f, member, s, listed, rfl, rfl, rfl⟩

theorem Tidy.mem_roll (tidy : r.Tidy) {t : Subscription} :
    t ∈ r.roll ↔ t.subscriber ∈ (r.under t.uri).of t.protocol := by
  unfold roll
  rw [List.mem_toFinset, mem_all, Subscribers.mem_of_iff (tidy.under t.uri).keyed]
  constructor
  · rintro ⟨e, there, same, listed⟩
    unfold Subscriptions.under
    rw [← same, Table.at?_of_mem tidy.keyed there]
    exact listed
  · rintro ⟨f, member, listed⟩
    unfold Subscriptions.under at member
    cases found : Table.at? r.entries t.uri with
    | none => simp [found] at member
    | some ss =>
      rw [found] at member
      exact ⟨(t.uri, ss), Table.mem_of_at? found, rfl, f, member, listed⟩

theorem Tidy.nodup_all (tidy : r.Tidy) : r.all.Nodup := by
  have sets (e : String × Subscribers) (there : e ∈ r.entries) :
      (e.2.flatMap fun f => f.2.map fun s => (⟨e.1, f.1, s⟩ : Subscription)).Nodup := by
    refine List.nodup_flatMap.mpr ⟨fun f member => ?_, ?_⟩
    · refine ((tidy.tidy e there).single f member).map fun a b same => ?_
      exact (Subscription.mk.inj same).2.2
    · refine ((List.pairwise_map.mp (tidy.tidy e there).keyed)).imp fun apart => ?_
      intro t left right
      obtain ⟨_, _, rfl⟩ := List.mem_map.mp left
      obtain ⟨_, _, same⟩ := List.mem_map.mp right
      exact apart (Subscription.mk.inj same).2.1.symm
  -- Triples of two entries differ in the resource, as those of two sets do in the protocol.
  refine List.nodup_flatMap.mpr ⟨sets, (List.pairwise_map.mp tidy.keyed).imp fun apart => ?_⟩
  intro t left right
  obtain ⟨_, _, left⟩ := List.mem_flatMap.mp left
  obtain ⟨_, _, right⟩ := List.mem_flatMap.mp right
  obtain ⟨_, _, rfl⟩ := List.mem_map.mp left
  obtain ⟨_, _, same⟩ := List.mem_map.mp right
  exact apart (Subscription.mk.inj same).1.symm

/-! Counting -/

theorem count_eq (r : Subscriptions) (wanted : Subscriber → Bool) :
    r.count wanted = r.all.countP fun t => wanted t.subscriber := by
  have sets (uri : String) (ss : Subscribers) :
      total (fun f => f.2.countP wanted) ss =
        (ss.flatMap fun f => f.2.map fun s => (⟨uri, f.1, s⟩ : Subscription)).countP
          fun t => wanted t.subscriber := by
    induction ss with
    | nil => rfl
    | cons f rest ih =>
      rw [total_cons, ih, List.flatMap_cons, List.countP_append, List.countP_map]
      rfl
  unfold count all
  induction r.entries with
  | nil => rfl
  | cons e rest ih => rw [total_cons, ih, sets e.1 e.2, List.flatMap_cons, List.countP_append]

theorem Tidy.count_roll (tidy : r.Tidy) (wanted : Subscriber → Bool) :
    r.count wanted = (r.roll.filter fun t => wanted t.subscriber = true).card := by
  rw [count_eq, List.countP_eq_length_filter, ← List.toFinset_card_of_nodup (tidy.nodup_all.filter _),
    List.toFinset_filter]
  rfl

theorem Tidy.uris_roll (tidy : r.Tidy) : r.entries.length = (r.roll.image (·.uri)).card := by
  have same : r.roll.image (·.uri) = (Table.keys r.entries).toFinset := by
    ext uri
    rw [Finset.mem_image, List.mem_toFinset]
    constructor
    · rintro ⟨t, listed, rfl⟩
      obtain ⟨e, there, same, _⟩ := mem_all.mp (List.mem_toFinset.mp listed)
      exact same ▸ List.mem_map_of_mem there
    · intro known
      obtain ⟨e, there, rfl⟩ := List.mem_map.mp known
      obtain ⟨f, member⟩ := List.exists_mem_of_ne_nil e.2 (tidy.filled e there)
      obtain ⟨s, listed⟩ := List.exists_mem_of_ne_nil f.2 ((tidy.tidy e there).filled f member)
      exact ⟨⟨e.1, f.1, s⟩, List.mem_toFinset.mpr (mem_all.mpr ⟨e, there, rfl, f, member, rfl, listed⟩), rfl⟩
  rw [same, List.toFinset_card_of_nodup tidy.keyed, Table.keys, List.length_map]

theorem Tidy.contains_roll (tidy : r.Tidy) (uri : String) :
    r.contains uri = true ↔ ∃ t ∈ r.roll, t.uri = uri := by
  rw [tidy.contains_iff]
  constructor
  · rintro ⟨p, s, listed⟩
    exact ⟨⟨uri, p, s⟩, tidy.mem_roll.mpr listed, rfl⟩
  · rintro ⟨t, listed, rfl⟩
    exact ⟨t.protocol, t.subscriber, tidy.mem_roll.mp listed⟩

theorem Tidy.observers_roll (tidy : r.Tidy) (uri : String) :
    r.observerCount uri = (r.roll.standing uri).card :=
  (tidy.under uri).observers_eq fun _ => Roll.mem_standing.trans tidy.mem_roll

/-! Changes -/

theorem Tidy.mem_store (tidy : r.Tidy) {ss : Subscribers} (good : ss.Tidy) {uri : String}
    {t : Subscription} :
    t ∈ (r.store uri ss).roll ↔
      if uri = t.uri then t.subscriber ∈ ss.of t.protocol else t ∈ r.roll := by
  rw [(tidy.store good uri).mem_roll, under_store]
  by_cases here : uri = t.uri
  · simp [here]
  · simp [here, tidy.mem_roll]

theorem Tidy.roll_store_add (tidy : r.Tidy) {ss : Subscribers} (good : ss.Tidy) (uri : String)
    (p : ProtocolName) (s : Subscriber) :
    (r.store uri (ss.add p s)).roll = insert ⟨uri, p, s⟩ (r.store uri ss).roll := by
  ext ⟨uri', q, x⟩
  rw [tidy.mem_store (good.add p s), Finset.mem_insert, tidy.mem_store good]
  by_cases here : uri = uri'
  · subst here
    simp only [↓reduceIte, Subscribers.mem_add_iff, Subscription.mk.injEq, true_and]
    rw [or_comm, eq_comm]
  · have other : uri' ≠ uri := fun same => here same.symm
    simp [here, other]

theorem Tidy.roll_store_under (tidy : r.Tidy) (uri : String) :
    (r.store uri (r.under uri)).roll = r.roll := by
  ext t
  rw [tidy.mem_store (tidy.under uri), tidy.mem_roll]
  split
  · rename_i here
    rw [here]
  · rfl

theorem Tidy.roll_add (tidy : r.Tidy) (uri : String) (p : ProtocolName) (s : Subscriber) :
    (r.store uri ((r.under uri).add p s)).roll = insert ⟨uri, p, s⟩ r.roll := by
  rw [tidy.roll_store_add (tidy.under uri), tidy.roll_store_under]

theorem Tidy.roll_remove (tidy : r.Tidy) (uri : String) (p : ProtocolName) (s : Subscriber) :
    (r.store uri ((r.under uri).remove p s)).roll = r.roll.erase ⟨uri, p, s⟩ := by
  ext ⟨uri', q, x⟩
  rw [tidy.mem_store ((tidy.under uri).remove p s), Finset.mem_erase, tidy.mem_roll]
  by_cases here : uri = uri'
  · subst here
    simp only [↓reduceIte, Subscribers.mem_remove_iff (tidy.under uri), ne_eq, Subscription.mk.injEq,
      true_and]
    exact and_comm
  · have other : uri' ≠ uri := fun same => here same.symm
    simp [here, other]

theorem Tidy.roll_observe (tidy : r.Tidy) (uri : String) (p : ProtocolName) (s : Sequence) :
    (r.observe uri p s).2.roll = insert ⟨uri, p, .once s⟩ (insert ⟨uri, p, .standing⟩ r.roll) := by
  change (r.store uri (((r.under uri).add p .standing).add p (.once s))).roll = _
  rw [tidy.roll_store_add ((tidy.under uri).add p .standing), tidy.roll_add]

theorem Tidy.observers_left (tidy : r.Tidy) (uri : String) (p : ProtocolName) :
    ((r.under uri).remove p .standing).observers =
      (Roll.standing (r.roll.erase ⟨uri, p, .standing⟩) uri).card := by
  refine ((tidy.under uri).remove p .standing).observers_eq fun q => ?_
  rw [Roll.mem_standing, Finset.mem_erase, tidy.mem_roll, Subscribers.mem_remove_iff (tidy.under uri)]
  simp only [ne_eq, Subscription.mk.injEq, true_and]
  exact and_comm

theorem Tidy.roll_unobserve (tidy : r.Tidy) (uri : String) (p : ProtocolName) (s : Sequence) :
    (r.unobserve uri p s).2.roll = r.roll.perform (.unobserve uri p s) := by
  have left := (tidy.under uri).remove p .standing
  have erased := tidy.roll_remove uri p .standing
  have count := tidy.observers_left uri p
  unfold Subscriptions.unobserve Roll.perform
  dsimp only
  rw [← erased] at count ⊢
  -- Both sides ask whether anybody stands once the protocol does not.
  by_cases none : ((r.under uri).remove p .standing).observers = 0
  · rw [if_pos none, if_pos (Finset.card_eq_zero.mp (count ▸ none))]
    exact tidy.roll_store_add left uri p (.once s)
  · rw [if_neg none, if_neg fun empty => none (count.trans (Finset.card_eq_zero.mpr empty))]

theorem Tidy.roll_drain (tidy : r.Tidy) (uri : String) (includeStanding : Bool) :
    (r.drain uri includeStanding).2.roll =
      r.roll.filter fun t => t.uri = uri → t.subscriber = .standing := by
  ext t
  rw [(tidy.drain uri includeStanding).mem_roll, Finset.mem_filter, tidy.mem_roll, mem_drain_iff tidy]
  exact and_congr_right fun _ => ⟨fun kept here => kept here.symm, fun kept here => kept here.symm⟩

/-! What a drain gives -/

theorem before_of_ne {a b : ProtocolName} (order : (!b.before a) = true) (apart : a ≠ b) :
    a.before b = true := by
  have le : ¬b.text < a.text := by simpa [ProtocolName.before] using order
  have differ : a.text ≠ b.text := by
    intro same
    cases a
    cases b
    cases same
    exact apart rfl
  exact decide_eq_true (lt_of_le_of_ne (not_lt.mp le) differ)

theorem pairwise_names {α : Type} (name : α → ProtocolName) (l : List α) :
    (l.mergeSort fun a b => !(name b).before (name a)).Pairwise
      fun a b => (!(name b).before (name a)) = true := by
  apply List.pairwise_mergeSort
  · intro a b c first second
    simp only [ProtocolName.before, Bool.not_eq_true', decide_eq_false_iff_not] at first second ⊢
    exact String.le_trans first second
  · intro a b
    have first (le : (name a).text ≤ (name b).text) : (name b).before (name a) = false :=
      decide_eq_false le
    have second (ge : (name b).text ≤ (name a).text) : (name a).before (name b) = false :=
      decide_eq_false ge
    rcases String.le_total (name a).text (name b).text with le | ge
    · simp [first le]
    · simp [second ge]

theorem pairwise_delivered (includeStanding : Bool) (mine : List Subscriber) :
    (delivered includeStanding mine).Pairwise fun a b => a.before b = true := by
  apply List.pairwise_mergeSort
  · intro a b c first second
    cases a <;> cases b <;> cases c <;> simp [Subscriber.before] at first second ⊢
    exact UInt32.le_trans first second
  · intro a b
    cases a <;> cases b <;> simp [Subscriber.before]
    exact UInt32.le_total _ _

theorem mem_delivered {includeStanding : Bool} {mine : List Subscriber} {s : Subscriber} :
    s ∈ delivered includeStanding mine ↔ s ∈ mine ∧ (s = .standing → includeStanding = true) := by
  unfold delivered
  rw [(List.mergeSort_perm _ _).mem_iff, List.mem_filter]
  cases s <;> simp [Subscriber.isOnce]

theorem Tidy.drain_fits (tidy : r.Tidy) {uri : String} {l : ReplyTo} (includeStanding : Bool)
    (given : (r.drain uri includeStanding).1 = some l) : r.roll.Fits uri includeStanding l := by
  have entries := tidy.under uri
  have listed (p : ProtocolName) (s : Subscriber) : ⟨uri, p, s⟩ ∈ r.roll ↔ s ∈ (r.under uri).of p :=
    tidy.mem_roll
  unfold Subscriptions.drain at given
  unfold Subscriptions.under at entries listed
  cases found : Table.at? r.entries uri with
  | none =>
    rw [found] at given
    cases given
  | some ss =>
    rw [found] at given entries listed
    cases given
    dsimp only [Option.getD_some] at entries listed
    -- Sorting only moves the entries, so who is listed is read off the list before it is sorted.
    generalize parts : ((ss.map fun e => (e.1, delivered includeStanding e.2)).filter
      fun e => !e.2.isEmpty) = l
    have perm := List.mergeSort_perm l fun a b => !b.1.before a.1
    have part {e : ProtocolName × List Subscriber} : e ∈ l.mergeSort (fun a b => !b.1.before a.1) ↔
        (∃ f ∈ ss, (f.1, delivered includeStanding f.2) = e) ∧ e.2 ≠ [] := by
      rw [perm.mem_iff, ← parts, List.mem_filter, List.mem_map]
      simp
    have names : (l.map (·.1)).Nodup := by
      have sub := (List.filter_sublist (p := fun e => !e.2.isEmpty)
        (l := ss.map fun e => (e.1, delivered includeStanding e.2))).map Prod.fst
      rw [parts, List.map_map] at sub
      exact sub.nodup entries.keyed
    constructor
    case names =>
      have apart := List.pairwise_map.mp ((perm.map (·.1)).nodup_iff.mpr names)
      exact (pairwise_names (·.1) l).imp₂ (fun _ _ => before_of_ne) apart
    case order =>
      intro e member
      obtain ⟨⟨f, there, rfl⟩, _⟩ := part.mp member
      have once : (delivered includeStanding f.2).Nodup :=
        (List.mergeSort_perm _ _).nodup_iff.mpr ((entries.single f there).filter _)
      exact (pairwise_delivered includeStanding f.2).imp₂ (fun _ _ => And.intro) once
    case filled => exact fun e member => (part.mp member).2
    case listed =>
      intro p s
      rw [listed, Subscribers.mem_of_iff entries.keyed]
      constructor
      · rintro ⟨e, member, rfl, goes⟩
        obtain ⟨⟨f, there, rfl⟩, _⟩ := part.mp member
        obtain ⟨was, allowed⟩ := mem_delivered.mp goes
        exact ⟨⟨f, there, rfl, was⟩, allowed⟩
      · rintro ⟨⟨f, there, rfl, was⟩, allowed⟩
        have goes := mem_delivered.mpr ⟨was, allowed⟩
        exact ⟨_, part.mpr ⟨⟨f, there, rfl⟩, List.ne_nil_of_mem goes⟩, rfl, goes⟩

theorem Tidy.drain_none (tidy : r.Tidy) (uri : String) (includeStanding : Bool) :
    (r.drain uri includeStanding).1 = none ↔ ∀ t ∈ r.roll, t.uri ≠ uri := by
  have known := tidy.contains_roll uri
  rw [contains, Table.has_eq] at known
  unfold Subscriptions.drain
  cases found : Table.at? r.entries uri with
  | none =>
    rw [found] at known
    simp only [true_iff]
    exact fun t listed here => by simpa using known.mpr ⟨t, listed, here⟩
  | some ss =>
    rw [found] at known
    obtain ⟨t, listed, here⟩ := known.mp rfl
    simp only [reduceCtorEq, false_iff, not_forall]
    exact ⟨t, listed, fun other => other here⟩

/-! One change after the other -/

/-- The subscriptions are kept without empty sets, and make up the set. -/
structure Shows (r : Subscriptions) (S : Roll) : Prop where
  tidy : r.Tidy
  roll : r.roll = S

variable {S : Roll}

/-- A change gives what the set gives, and makes of the subscriptions what it makes of the set. -/
theorem Shows.perform (shown : r.Shows S) (c : Change) :
    S.Gives c (r.perform c).1 ∧ (r.perform c).2.Shows (S.perform c) := by
  obtain ⟨tidy, rfl⟩ := shown
  -- One case per change; what it does to the roll is a lemma about the table of one resource.
  cases c with
  | subscribe uri p s =>
    exact ⟨rfl, tidy.store ((tidy.under uri).add p s) uri, tidy.roll_add uri p s⟩
  | observe uri p s =>
    refine ⟨?_, tidy.store (((tidy.under uri).add p .standing).add p (.once s)) uri,
      tidy.roll_observe uri p s⟩
    have count := tidy.observers_roll uri
    have stood : (r.under uri).observers > 0 ↔ r.roll.standing uri ≠ ∅ := by
      change r.observerCount uri > 0 ↔ _
      rw [count, gt_iff_lt, Finset.card_pos, Finset.nonempty_iff_ne_empty]
    simp [Roll.Gives, Subscriptions.perform, Subscriptions.observe, stood]
  | unobserve uri p s =>
    refine ⟨congrArg Outcome.remaining (tidy.observers_left uri p), tidy.store ?_ uri,
      tidy.roll_unobserve uri p s⟩
    have left := (tidy.under uri).remove p .standing
    split
    · exact left.add p (.once s)
    · exact left
  | remove uri p s =>
    refine ⟨?_, tidy.store ((tidy.under uri).remove p s) uri, tidy.roll_remove uri p s⟩
    have was : ⟨uri, p, s⟩ ∈ r.roll ↔ s ∈ (r.under uri).of p := tidy.mem_roll
    simp [Roll.Gives, Subscriptions.perform, Subscriptions.remove, was]
  | drain uri includeStanding =>
    refine ⟨?_, tidy.drain uri includeStanding, tidy.roll_drain uri includeStanding⟩
    have none := tidy.drain_none uri includeStanding
    have fits (l : ReplyTo) (given : (r.drain uri includeStanding).1 = some l) :=
      tidy.drain_fits includeStanding given
    change _ ∧ Outcome.drained _ = _ ∨ _ ∧ ∃ l, Outcome.drained _ = _ ∧ _
    cases given : (r.drain uri includeStanding).1 with
    | none => exact Or.inl ⟨none.mp given, rfl⟩
    | some l =>
      rw [given] at none
      right
      refine ⟨?_, l, rfl, fits l given⟩
      by_contra nobody
      cases none.mpr fun t listed here => nobody ⟨t, listed, here⟩

theorem shows_empty : Subscriptions.empty.Shows ∅ := ⟨tidy_empty, rfl⟩

theorem Shows.performAll (shown : r.Shows S) (changes : List Change) :
    (r.performAll changes).Shows (S.performAll changes) := by
  induction changes generalizing r S with
  | nil => exact shown
  | cons c rest ih => exact ih (shown.perform c).2

end Subscriptions

/-! One-shots -/

/-- A change after which a protocol may wait for the answer to one of its requests. -/
def Change.Registers (uri : String) (p : ProtocolName) (n : Sequence) : Change → Prop
  | .subscribe uri' q s => uri' = uri ∧ q = p ∧ s = .once n
  | .observe uri' q m | .unobserve uri' q m => uri' = uri ∧ q = p ∧ m = n
  | .remove .. | .drain .. => False

namespace Roll

variable {S : Roll} {uri : String} {p : ProtocolName} {n : Sequence}

theorem registered_of_mem {c : Change} (waits : ⟨uri, p, .once n⟩ ∈ S.perform c) :
    c.Registers uri p n ∨ ⟨uri, p, .once n⟩ ∈ S := by
  cases c with
  | subscribe | observe =>
    simp only [perform, Finset.mem_insert, Subscription.mk.injEq, Subscriber.once.injEq, reduceCtorEq,
      and_false, false_or] at waits
    exact waits.imp_left fun ⟨here, mine, same⟩ => ⟨here.symm, mine.symm, same.symm⟩
  | unobserve =>
    dsimp only [perform] at waits
    split at waits
    · simp only [Finset.mem_insert, Finset.mem_erase, Subscription.mk.injEq, Subscriber.once.injEq] at waits
      exact waits.imp (fun ⟨here, mine, same⟩ => ⟨here.symm, mine.symm, same.symm⟩) And.right
    · exact Or.inr (Finset.mem_of_mem_erase waits)
  | remove => exact Or.inr (Finset.mem_of_mem_erase waits)
  | drain => exact Or.inr (Finset.mem_of_mem_filter _ waits)

theorem registered_of_mem_all {changes : List Change} (waits : ⟨uri, p, .once n⟩ ∈ S.performAll changes) :
    (∃ c ∈ changes, c.Registers uri p n) ∨ ⟨uri, p, .once n⟩ ∈ S := by
  induction changes generalizing S with
  | nil => exact Or.inr waits
  | cons c rest ih =>
    rcases ih waits with ⟨d, later, registers⟩ | before
    · exact Or.inl ⟨d, List.mem_cons_of_mem c later, registers⟩
    · exact (registered_of_mem before).imp_left fun registers => ⟨c, List.mem_cons_self, registers⟩

theorem not_mem_drain (S : Roll) (uri : String) (p : ProtocolName) (n : Sequence)
    (includeStanding : Bool) : ⟨uri, p, .once n⟩ ∉ S.perform (.drain uri includeStanding) := by
  intro waits
  cases (Finset.mem_filter.mp waits).2 rfl

end Roll

/-- The subscriptions are a set of triples. Whatever changes were made to them, the next one gives what
it gives of the set the same changes make of the empty one, the questions are answered by counting in
that set, and nothing empty is kept. After a drain of a resource a later one gives only those who were
registered in between, so nobody is given twice. -/
theorem subscriptions_refine_roll (changes : List Change) :
    let r := Subscriptions.empty.performAll changes
    let S := Roll.performAll ∅ changes
    (∀ c, S.Gives c (r.perform c).1) ∧
      (∀ uri, r.contains uri = true ↔ ∃ t ∈ S, t.uri = uri) ∧
      (∀ uri, r.observerCount uri = (S.standing uri).card) ∧
      r.stats.uris = (S.image (·.uri)).card ∧
      r.stats.standing = (S.filter fun t => t.subscriber = .standing).card ∧
      r.stats.oneShot = (S.filter fun t => t.subscriber ≠ .standing).card ∧
      (∀ e ∈ r.entries, e.2 ≠ [] ∧ ∀ f ∈ e.2, f.2 ≠ []) ∧
      ∀ (uri : String) (first second : Bool) (between : List Change) (p : ProtocolName) (n : Sequence)
        (l : ReplyTo), (((r.drain uri first).2.performAll between).drain uri second).1 = some l →
        (∃ e ∈ l, e.1 = p ∧ .once n ∈ e.2) → ∃ c ∈ between, c.Registers uri p n := by
  intro r S
  have shown : r.Shows S := Subscriptions.shows_empty.performAll changes
  have tidy := shown.tidy
  have same := shown.roll
  have counted (wanted : Subscriber → Bool) := tidy.count_roll wanted
  rw [same] at counted
  refine ⟨fun c => (shown.perform c).1, fun uri => ?_, fun uri => ?_, ?_, ?_, ?_, fun e there => ?_, ?_⟩
  · rw [tidy.contains_roll, same]
  · rw [tidy.observers_roll, same]
  · rw [← same]
    exact tidy.uris_roll
  · refine (counted _).trans (congrArg Finset.card (Finset.filter_congr fun t _ => ?_))
    cases t.subscriber <;> simp [Subscriber.isOnce]
  · refine (counted _).trans (congrArg Finset.card (Finset.filter_congr fun t _ => ?_))
    cases t.subscriber <;> simp [Subscriber.isOnce]
  · exact ⟨tidy.filled e there, (tidy.tidy e there).filled⟩
  · -- Whoever is listed is in the set, where the first drain has left nobody that waits.
    intro uri first second between p n l again listed
    have drained := (shown.perform (.drain uri first)).2
    have waits := ((drained.performAll between).tidy.drain_fits second again).listed p (.once n)
    rw [(drained.performAll between).roll] at waits
    exact (Roll.registered_of_mem_all (waits.mp listed).1).resolve_right (S.not_mem_drain uri p n first)

end ProtocolGateway
