import Mathlib
import ProtocolGateway.Proofs.Routing.Waiting

/-!
Who stands. An OBSERVE makes its protocol stand under a resource, and nothing but an UNOBSERVE or a
removal takes it out again: requests that wait and drains leave the observers as they are.
-/

namespace ProtocolGateway

namespace Subscribers

theorem observers_eq (ss : Subscribers) :
    ss.observers = total (fun e => if .standing ∈ e.2 then 1 else 0) ss := by
  unfold observers
  induction ss with
  | nil => rfl
  | cons e rest ih =>
    rw [List.countP_cons, ih, total_cons]
    simp only [List.contains_eq_mem, decide_eq_true_eq]
    omega

theorem share_standing (ss : Subscribers) (p : ProtocolName) :
    Table.share (fun e => if .standing ∈ e.2 then 1 else 0) ss p =
      if .standing ∈ of ss p then 1 else 0 := by
  unfold Table.share of
  cases Table.at? ss p with
  | none => simp
  | some mine => rfl

theorem observers_add (ss : Subscribers) (p : ProtocolName) (sub : Subscriber) :
    (ss.add p sub).observers =
      ss.observers + if sub = .standing ∧ sub ∉ of ss p then 1 else 0 := by
  have put := Table.total_put (fun e => if Subscriber.standing ∈ e.2 then 1 else 0) ss p
    (if (of ss p).contains sub then of ss p else of ss p ++ [sub])
  rw [share_standing] at put
  rw [observers_eq, observers_eq, add]
  by_cases known : sub ∈ of ss p
  · simp only [List.contains_eq_mem, known, decide_true, ↓reduceIte] at put ⊢
    simp only [not_true_eq_false, and_false, ↓reduceIte]
    omega
  · simp only [List.contains_eq_mem, known, decide_false, Bool.false_eq_true, ↓reduceIte,
      List.mem_append, List.mem_singleton] at put ⊢
    by_cases standing : sub = .standing
    · subst standing
      simp only [known, false_or, ↓reduceIte, not_false_eq_true, and_self] at put ⊢
      omega
    · have other : ¬Subscriber.standing = sub := fun eq => standing eq.symm
      simp only [other, or_false, standing, false_and, ↓reduceIte] at put ⊢
      omega

theorem observers_add_once (ss : Subscribers) (p : ProtocolName) (s : Sequence) :
    (ss.add p (.once s)).observers = ss.observers := by
  simp [observers_add]

theorem observers_pos_of_mem {ss : Subscribers} {p : ProtocolName} (stands : .standing ∈ of ss p) :
    0 < ss.observers := by
  apply List.countP_pos_iff.mpr
  unfold of at stands
  cases found : Table.at? ss p with
  | none => simp [found] at stands
  | some mine =>
    rw [found] at stands
    exact ⟨(p, mine), Table.mem_of_at? found, List.contains_iff_mem.mpr stands⟩

theorem observers_pos_add (ss : Subscribers) (p : ProtocolName) : 0 < (ss.add p .standing).observers := by
  rw [observers_add]
  by_cases stands : .standing ∈ of ss p
  · have pos := observers_pos_of_mem stands
    omega
  · simp [stands]

theorem exists_standing_of_pos {ss : Subscribers} (pos : 0 < ss.observers) :
    ∃ e ∈ ss, .standing ∈ e.2 := by
  obtain ⟨e, member, stands⟩ := List.countP_pos_iff.mp pos
  exact ⟨e, member, List.contains_iff_mem.mp stands⟩

theorem standing_of_remove {ss : Subscribers} {p : ProtocolName} {sub : Subscriber}
    {e : ProtocolName × List Subscriber} (member : e ∈ ss.remove p sub) (stands : .standing ∈ e.2) :
    ∃ e ∈ ss, .standing ∈ e.2 := by
  obtain ⟨old, kept, rfl⟩ := List.mem_map.mp (List.mem_of_mem_filter member)
  refine ⟨old, kept, ?_⟩
  split at stands
  · exact List.mem_of_mem_filter stands
  · exact stands

/-- What a drain leaves behind are the observers. -/
theorem observers_kept (ss : Subscribers) :
    observers ((ss.map fun e => (e.1, e.2.filter (· = .standing))).filter fun e => !e.2.isEmpty) =
      ss.observers := by
  rw [observers_eq, observers_eq, total_filter, total_map]
  · apply total_congr
    intro e _
    simp
  · intro e _ dropped
    have empty : e.2 = [] := by simpa using dropped
    simp [empty]

end Subscribers

namespace Subscriptions

def Observed (r : Subscriptions) (key : String) : Prop := ∃ e ∈ r.under key, .standing ∈ e.2

theorem observed_iff {r : Subscriptions} {key : String} : r.Observed key ↔ 0 < r.observerCount key := by
  constructor
  · rintro ⟨e, member, stands⟩
    exact List.countP_pos_iff.mpr ⟨e, member, List.contains_iff_mem.mpr stands⟩
  · exact Subscribers.exists_standing_of_pos

theorem observerCount_store (r : Subscriptions) (uri key : String) (ss : Subscribers) :
    (r.store uri ss).observerCount key = if uri = key then ss.observers else r.observerCount key := by
  unfold observerCount
  rw [under_store]
  split <;> rfl

theorem observerCount_subscribe (r : Subscriptions) (uri key : String) (p : ProtocolName)
    (s : Sequence) : (r.subscribe uri p (.once s)).observerCount key = r.observerCount key := by
  unfold subscribe
  rw [observerCount_store, Subscribers.observers_add_once]
  by_cases here : uri = key
  · rw [if_pos here, here]
    rfl
  · rw [if_neg here]

theorem observe_already (r : Subscriptions) (uri : String) (p : ProtocolName) (s : Sequence) :
    (r.observe uri p s).1 = true ↔ 0 < r.observerCount uri := decide_eq_true_iff

theorem observerCount_observe (r : Subscriptions) (uri : String) (p : ProtocolName) (s : Sequence) :
    0 < (r.observe uri p s).2.observerCount uri := by
  unfold observe
  dsimp only
  rw [observerCount_store, if_pos rfl, Subscribers.observers_add_once]
  exact Subscribers.observers_pos_add _ p

theorem observerCount_observe_other (r : Subscriptions) {uri key : String} (other : uri ≠ key)
    (p : ProtocolName) (s : Sequence) :
    (r.observe uri p s).2.observerCount key = r.observerCount key := by
  unfold observe
  dsimp only
  rw [observerCount_store, if_neg other]

theorem observerCount_unobserve (r : Subscriptions) (uri : String) (p : ProtocolName) (s : Sequence) :
    (r.unobserve uri p s).2.observerCount uri = (r.unobserve uri p s).1 := by
  unfold unobserve
  dsimp only
  rw [observerCount_store, if_pos rfl]
  split
  · rw [Subscribers.observers_add_once]
  · rfl

theorem observed_of_unobserve {r : Subscriptions} {uri : String} {p : ProtocolName} {s : Sequence}
    (remain : 0 < (r.unobserve uri p s).1) : r.Observed uri := by
  obtain ⟨e, member, stands⟩ := Subscribers.exists_standing_of_pos remain
  exact Subscribers.standing_of_remove member stands

theorem observerCount_unobserve_other (r : Subscriptions) {uri key : String} (other : uri ≠ key)
    (p : ProtocolName) (s : Sequence) :
    (r.unobserve uri p s).2.observerCount key = r.observerCount key := by
  unfold unobserve
  dsimp only
  rw [observerCount_store, if_neg other]

theorem observerCount_remove_other (r : Subscriptions) {uri key : String} (other : uri ≠ key)
    (p : ProtocolName) (s : Subscriber) :
    (r.remove uri p s).2.observerCount key = r.observerCount key := by
  unfold remove
  dsimp only
  rw [observerCount_store, if_neg other]

theorem observerCount_drain (r : Subscriptions) (uri key : String) (includeStanding : Bool) :
    (r.drain uri includeStanding).2.observerCount key = r.observerCount key := by
  unfold drain
  cases found : Table.at? r.entries uri with
  | none => rfl
  | some ss =>
    dsimp only
    rw [observerCount_store, Subscribers.observers_kept]
    by_cases here : uri = key
    · rw [if_pos here]
      unfold observerCount under
      rw [← here, found]
      rfl
    · rw [if_neg here]

end Subscriptions

end ProtocolGateway
