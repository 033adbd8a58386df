import Mathlib
import ProtocolGateway.Proofs.Routing.Waiting

/-!
Who is listed where. What each operation does to the subscribers of a resource is said by what it does
to the set of each protocol. Nobody is listed twice, and no empty set and no empty resource is kept.
-/

namespace ProtocolGateway

namespace Subscribers

/-- Each protocol has one set, none of them is empty, and nobody is in a set twice. -/
structure Tidy (ss : Subscribers) : Prop where
  keyed : (Table.keys ss).Nodup
  filled : ∀ e ∈ ss, e.2 ≠ []
  single : ∀ e ∈ ss, e.2.Nodup

def trim (keep : ProtocolName → Subscriber → Bool) (ss : Subscribers) : Subscribers :=
  (ss.map fun e => (e.1, e.2.filter (keep e.1))).filter fun e => !e.2.isEmpty

variable {ss : Subscribers}

theorem tidy_nil : Tidy [] := ⟨List.nodup_nil, List.forall_mem_nil _, List.forall_mem_nil _⟩

/-! Sets of protocols -/

theorem mem_of_iff (keyed : (Table.keys ss).Nodup) {p : ProtocolName} {s : Subscriber} :
    s ∈ of ss p ↔ ∃ e ∈ ss, e.1 = p ∧ s ∈ e.2 := by
  constructor
  · intro listed
    unfold of at listed
    cases found : Table.at? ss p with
    | none => simp [found] at listed
    | some mine =>
      rw [found] at listed
      exact ⟨(p, mine), Table.mem_of_at? found, rfl, listed⟩
  · rintro ⟨e, member, rfl, listed⟩
    unfold of
    rw [Table.at?_of_mem keyed member]
    exact listed

theorem of_add (ss : Subscribers) (p q : ProtocolName) (s : Subscriber) :
    of (ss.add p s) q =
      if p = q then (if s ∈ of ss p then of ss p else of ss p ++ [s]) else of ss q := by
  unfold add of
  rw [Table.at?_put]
  by_cases here : p = q <;> simp [here]

theorem mem_add_iff {p q : ProtocolName} {s x : Subscriber} :
    x ∈ of (ss.add p s) q ↔ x ∈ of ss q ∨ p = q ∧ x = s := by
  rw [of_add]
  by_cases here : p = q
  · subst here
    by_cases known : s ∈ of ss p
    · simp only [known, ↓reduceIte, true_and]
      constructor
      · exact Or.inl
      · rintro (old | rfl)
        · exact old
        · exact known
    · simp [known]
  · simp [here]

/-! Trimming -/

theorem keys_trim_sublist (keep : ProtocolName → Subscriber → Bool) (ss : Subscribers) :
    (Table.keys (ss.trim keep)).Sublist (Table.keys ss) := by
  have names : Table.keys (ss.map fun e => (e.1, e.2.filter (keep e.1))) = Table.keys ss := by
    simp [Table.keys]
  rw [← names]
  exact List.filter_sublist.map _

theorem mem_trim_iff (tidy : ss.Tidy) (keep : ProtocolName → Subscriber → Bool) {p : ProtocolName}
    {s : Subscriber} : s ∈ of (ss.trim keep) p ↔ s ∈ of ss p ∧ keep p s = true := by
  rw [mem_of_iff ((keys_trim_sublist keep ss).nodup tidy.keyed), mem_of_iff tidy.keyed]
  constructor
  · rintro ⟨_, member, rfl, listed⟩
    obtain ⟨e, old, rfl⟩ := List.mem_map.mp (List.mem_of_mem_filter member)
    obtain ⟨was, kept⟩ := List.mem_filter.mp listed
    exact ⟨⟨e, old, rfl, was⟩, kept⟩
  · rintro ⟨⟨e, old, rfl, was⟩, kept⟩
    have listed : s ∈ e.2.filter (keep e.1) := List.mem_filter.mpr ⟨was, kept⟩
    refine ⟨(e.1, e.2.filter (keep e.1)), List.mem_filter.mpr ⟨List.mem_map_of_mem old, ?_⟩, rfl, listed⟩
    simpa using List.ne_nil_of_mem listed

theorem Tidy.trim (tidy : ss.Tidy) (keep : ProtocolName → Subscriber → Bool) : (ss.trim keep).Tidy where
  keyed := (keys_trim_sublist keep ss).nodup tidy.keyed
  filled e member := by
    have filled := (List.mem_filter.mp member).2
    simpa using filled
  single e member := by
    obtain ⟨old, there, rfl⟩ := List.mem_map.mp (List.mem_of_mem_filter member)
    exact (tidy.single old there).filter _

theorem remove_eq (ss : Subscribers) (p : ProtocolName) (s : Subscriber) :
    ss.remove p s = ss.trim fun q x => !(q = p ∧ x = s) := by
  unfold remove Subscribers.trim
  congr 1
  apply List.map_congr_left
  intro e _
  by_cases here : e.1 = p <;> simp [here]

theorem mem_remove_iff (tidy : ss.Tidy) {p q : ProtocolName} {s x : Subscriber} :
    x ∈ of (ss.remove p s) q ↔ x ∈ of ss q ∧ ¬(q = p ∧ x = s) := by
  rw [remove_eq, mem_trim_iff tidy]
  by_cases here : q = p <;> simp [here]

theorem Tidy.remove (tidy : ss.Tidy) (p : ProtocolName) (s : Subscriber) : (ss.remove p s).Tidy := by
  rw [remove_eq]
  exact tidy.trim _

theorem Tidy.add (tidy : ss.Tidy) (p : ProtocolName) (s : Subscriber) : (ss.add p s).Tidy := by
  have mine : (of ss p).Nodup := by
    unfold of
    cases found : Table.at? ss p with
    | none => exact List.nodup_nil
    | some mine => exact tidy.single _ (Table.mem_of_at? found)
  refine ⟨Table.nodup_put tidy.keyed p _, fun e member => ?_, fun e member => ?_⟩
  · rcases Table.mem_put member with rfl | old
    · by_cases known : s ∈ of ss p
      · simpa [known] using List.ne_nil_of_mem known
      · simp [known]
    · exact tidy.filled e old
  · rcases Table.mem_put member with rfl | old
    · by_cases known : s ∈ of ss p
      · simpa [known] using mine
      · simpa [known] using List.nodup_append.mpr ⟨mine, by simp, fun x there y new => by
          rw [List.mem_singleton.mp new]
          exact fun same => known (same ▸ there)⟩
    · exact tidy.single e old

theorem Tidy.ne_nil_iff (tidy : ss.Tidy) : ss ≠ [] ↔ ∃ p s, s ∈ of ss p := by
  constructor
  · intro some
    obtain ⟨e, rest, rfl⟩ := List.exists_cons_of_ne_nil some
    obtain ⟨s, listed⟩ := List.exists_mem_of_ne_nil e.2 (tidy.filled e List.mem_cons_self)
    exact ⟨e.1, s, (mem_of_iff tidy.keyed).mpr ⟨e, List.mem_cons_self, rfl, listed⟩⟩
  · rintro ⟨p, s, listed⟩
    obtain ⟨e, member, _⟩ := (mem_of_iff tidy.keyed).mp listed
    exact List.ne_nil_of_mem member

theorem Tidy.observers_eq (tidy : ss.Tidy) {standing : Finset ProtocolName}
    (stand : ∀ p, p ∈ standing ↔ .standing ∈ of ss p) : ss.observers = standing.card := by
  -- The entries are counted, and each of them is that of another protocol.
  have names : ((ss.filter fun e => e.2.contains .standing).map (·.1)).Nodup :=
    (List.filter_sublist.map Prod.fst).nodup tidy.keyed
  have same : standing = ((ss.filter fun e => e.2.contains .standing).map (·.1)).toFinset := by
    ext p
    rw [stand, mem_of_iff tidy.keyed]
    simp
  rw [same, List.toFinset_card_of_nodup names, List.length_map, observers, List.countP_eq_length_filter]

end Subscribers

namespace Subscriptions

/-- Each resource has one entry, none of them is empty, and all are tidy. -/
structure Tidy (r : Subscriptions) : Prop where
  keyed : r.Keyed
  filled : ∀ e ∈ r.entries, e.2 ≠ []
  tidy : ∀ e ∈ r.entries, Subscribers.Tidy e.2

variable {r : Subscriptions}

theorem tidy_empty : Tidy .empty :=
  ⟨List.nodup_nil, List.forall_mem_nil _, List.forall_mem_nil _⟩

theorem Tidy.under (tidy : r.Tidy) (uri : String) : (r.under uri).Tidy := by
  unfold Subscriptions.under
  cases found : Table.at? r.entries uri with
  | none => exact Subscribers.tidy_nil
  | some ss => exact tidy.tidy _ (Table.mem_of_at? found)

theorem Tidy.store (tidy : r.Tidy) {ss : Subscribers} (good : ss.Tidy) (uri : String) :
    (r.store uri ss).Tidy := by
  have entries (e : String × Subscribers) (member : e ∈ (r.store uri ss).entries) :
      e = (uri, ss) ∧ ss ≠ [] ∨ e ∈ r.entries := by
    -- A resource with nobody left is not stored but erased.
    unfold Subscriptions.store at member
    cases ss with
    | nil => exact Or.inr (List.mem_of_mem_filter member)
    | cons f rest => exact (Table.mem_put member).imp_left fun new => ⟨new, List.cons_ne_nil f rest⟩
  refine ⟨keyed_store tidy.keyed uri ss, fun e member => ?_, fun e member => ?_⟩
  · rcases entries e member with ⟨rfl, some⟩ | old
    · exact some
    · exact tidy.filled e old
  · rcases entries e member with ⟨rfl, _⟩ | old
    · exact good
    · exact tidy.tidy e old

theorem Tidy.contains_iff (tidy : r.Tidy) (uri : String) :
    r.contains uri = true ↔ ∃ p s, s ∈ (r.under uri).of p := by
  rw [← (tidy.under uri).ne_nil_iff, contains, Table.has_eq]
  unfold Subscriptions.under
  cases found : Table.at? r.entries uri with
  | none => simp
  | some ss => simpa using tidy.filled _ (Table.mem_of_at? found)

/-! What stays behind a drain -/

theorem drain_entry (r : Subscriptions) (uri : String) (includeStanding : Bool) :
    (r.drain uri includeStanding).2 = r ∧ Table.at? r.entries uri = none ∨
      (r.drain uri includeStanding).2 =
        r.store uri ((r.under uri).trim fun _ s => s = .standing) := by
  unfold drain Subscriptions.under
  cases found : Table.at? r.entries uri with
  | none => exact Or.inl ⟨rfl, rfl⟩
  | some ss => exact Or.inr rfl

theorem Tidy.drain (tidy : r.Tidy) (uri : String) (includeStanding : Bool) :
    (r.drain uri includeStanding).2.Tidy := by
  rcases r.drain_entry uri includeStanding with ⟨same, _⟩ | same
  · rw [same]
    exact tidy
  · rw [same]
    exact tidy.store ((tidy.under uri).trim _) uri

theorem mem_drain_iff (tidy : r.Tidy) (uri key : String) (includeStanding : Bool) (p : ProtocolName)
    (s : Subscriber) :
    s ∈ ((r.drain uri includeStanding).2.under key).of p ↔
      s ∈ (r.under key).of p ∧ (uri = key → s = .standing) := by
  rcases r.drain_entry uri includeStanding with ⟨same, none⟩ | same
  · rw [same]
    refine ⟨fun listed => ⟨listed, ?_⟩, And.left⟩
    rintro rfl
    simp [Subscriptions.under, none, Subscribers.of] at listed
  · rw [same, under_store]
    by_cases here : uri = key
    · rw [if_pos here, Subscribers.mem_trim_iff (tidy.under uri), here]
      simp
    · simp [here]

end Subscriptions

end ProtocolGateway
