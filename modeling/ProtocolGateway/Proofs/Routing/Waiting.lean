import Mathlib
import ProtocolGateway.Proofs.Data.Table
import ProtocolGateway.Routing.Subscriptions

/-!
Who waits once. A subscriber that waits once is counted wherever it is listed: under a resource, in
the registry as a whole, in a list of receivers. No operation but a new request adds one, and a
drain only moves those of its own resource from the registry into the list it gives.
-/

namespace ProtocolGateway

def listed (l : List (ProtocolName × List Subscriber)) (p : ProtocolName) (s : Sequence) : Nat :=
  total (fun e => if e.1 = p then e.2.count (.once s) else 0) l

@[simp] theorem listed_nil (p : ProtocolName) (s : Sequence) : listed [] p s = 0 := rfl

theorem listed_cons (e : ProtocolName × List Subscriber) (l : List (ProtocolName × List Subscriber))
    (p : ProtocolName) (s : Sequence) :
    listed (e :: l) p s = (if e.1 = p then e.2.count (.once s) else 0) + listed l p s := rfl

theorem listed_perm {l l' : List (ProtocolName × List Subscriber)} (order : l.Perm l')
    (p : ProtocolName) (s : Sequence) : listed l p s = listed l' p s := total_perm _ order

theorem listed_nonempty (l : List (ProtocolName × List Subscriber)) (p : ProtocolName)
    (s : Sequence) : listed (l.filter fun e => !e.2.isEmpty) p s = listed l p s := by
  apply total_filter
  intro e _ dropped
  have empty : e.2 = [] := by simpa using dropped
  simp [empty]

theorem listed_pos {l : List (ProtocolName × List Subscriber)} {p : ProtocolName} {s : Sequence}
    {mine : List Subscriber} (member : (p, mine) ∈ l) (waits : Subscriber.once s ∈ mine) :
    0 < listed l p s := by
  have one := le_total (fun e => if e.1 = p then e.2.count (.once s) else 0) member
  have some := List.count_pos_iff.mpr waits
  simp only [↓reduceIte] at one
  exact Nat.lt_of_lt_of_le some one

namespace Subscribers

theorem share_eq (ss : Subscribers) (p q : ProtocolName) (s : Sequence) :
    Table.share (fun e => if e.1 = q then e.2.count (.once s) else 0) ss p =
      if p = q then (of ss p).count (.once s) else 0 := by
  unfold Table.share of
  cases Table.at? ss p with
  | none => simp
  | some mine => rfl

theorem listed_add (ss : Subscribers) (p q : ProtocolName) (sub : Subscriber) (s : Sequence) :
    listed (ss.add p sub) q s =
      listed ss q s + if p = q ∧ sub = .once s ∧ sub ∉ of ss p then 1 else 0 := by
  have grown : (if (of ss p).contains sub then of ss p else of ss p ++ [sub]).count (.once s) =
      (of ss p).count (.once s) + if sub = .once s ∧ sub ∉ of ss p then 1 else 0 := by
    by_cases known : sub ∈ of ss p
    · simp [known]
    · simp [known, List.count_append, List.count_singleton]
  have put := Table.total_put (fun e => if e.1 = q then e.2.count (Subscriber.once s) else 0) ss p
    (if (of ss p).contains sub then of ss p else of ss p ++ [sub])
  rw [share_eq] at put
  change listed (ss.add p sub) q s + _ = listed ss q s + _ at put
  by_cases same : p = q
  · simp only [same, true_and, ↓reduceIte] at put grown ⊢
    omega
  · simp only [same, false_and, ↓reduceIte] at put ⊢
    omega

theorem listed_remove_standing (ss : Subscribers) (p q : ProtocolName) (s : Sequence) :
    listed (ss.remove p .standing) q s = listed ss q s := by
  rw [remove, listed_nonempty, listed, total_map]
  apply total_congr
  intro e _
  by_cases mine : e.1 = p
  · have kept : (e.2.filter (· ≠ Subscriber.standing)).count (.once s) = e.2.count (.once s) := by
      rw [List.count_filter (by simp)]
    simp only [mine, ↓reduceIte, kept]
  · simp [mine]

end Subscribers

namespace Subscriptions

def Keyed (r : Subscriptions) : Prop := (Table.keys r.entries).Nodup

def waits (r : Subscriptions) (uri : String) (p : ProtocolName) (s : Sequence) : Nat :=
  listed (r.under uri) p s

def registered (r : Subscriptions) (p : ProtocolName) (s : Sequence) : Nat :=
  total (fun e => listed e.2 p s) r.entries

theorem share_eq (r : Subscriptions) (uri : String) (p : ProtocolName) (s : Sequence) :
    Table.share (fun e => listed e.2 p s) r.entries uri = r.waits uri p s := by
  unfold Table.share waits under
  cases Table.at? r.entries uri with
  | none => rfl
  | some ss => rfl

theorem waits_le_registered (r : Subscriptions) (uri : String) (p : ProtocolName) (s : Sequence) :
    r.waits uri p s ≤ r.registered p s := by
  rw [← share_eq]
  unfold Table.share
  cases found : Table.at? r.entries uri with
  | none => exact Nat.zero_le _
  | some ss => exact le_total (fun e => listed e.2 p s) (Table.mem_of_at? found)

theorem not_mem_of_waits_eq_zero {r : Subscriptions} {uri : String} {p : ProtocolName} {s : Sequence}
    (free : r.waits uri p s = 0) : Subscriber.once s ∉ (r.under uri).of p := by
  intro member
  unfold Subscribers.of at member
  cases found : Table.at? (r.under uri) p with
  | none => simp [found] at member
  | some mine =>
    simp only [found, Option.getD_some] at member
    have pos := listed_pos (Table.mem_of_at? found) member
    simp only [waits] at free
    omega

/-! Storing -/

theorem under_store (r : Subscriptions) (uri key : String) (ss : Subscribers) :
    (r.store uri ss).under key = if uri = key then ss else r.under key := by
  unfold store under
  cases ss with
  | nil =>
    change (Table.at? (Table.erase r.entries uri) key).getD [] = _
    rw [Table.at?_erase]
    by_cases same : uri = key <;> simp [same]
  | cons e rest =>
    change (Table.at? (Table.put uri (e :: rest) r.entries) key).getD [] = _
    rw [Table.at?_put]
    by_cases same : uri = key <;> simp [same]

theorem waits_store (r : Subscriptions) (uri key : String) (ss : Subscribers) (p : ProtocolName)
    (s : Sequence) :
    (r.store uri ss).waits key p s = if uri = key then listed ss p s else r.waits key p s := by
  unfold waits
  rw [under_store]
  by_cases same : uri = key <;> simp [same]

theorem registered_store {r : Subscriptions} (keyed : r.Keyed) (uri : String) (ss : Subscribers)
    (p : ProtocolName) (s : Sequence) :
    (r.store uri ss).registered p s + r.waits uri p s = r.registered p s + listed ss p s := by
  rw [← share_eq]
  cases ss with
  | nil => exact Table.total_erase _ keyed uri
  | cons e rest => exact Table.total_put _ r.entries uri (e :: rest)

theorem keyed_store {r : Subscriptions} (keyed : r.Keyed) (uri : String) (ss : Subscribers) :
    (r.store uri ss).Keyed := by
  unfold store
  split
  · exact Table.nodup_erase keyed uri
  · exact Table.nodup_put keyed uri ss

/-! What the operations do -/

/-- Nobody that waits once comes or goes. -/
structure Keeps (r r' : Subscriptions) : Prop where
  keyed : r'.Keyed
  waits : ∀ key q t, r'.waits key q t = r.waits key q t
  registered : ∀ q t, r'.registered q t = r.registered q t

/-- One subscriber that waits once is listed `n` times more, under one resource. -/
structure Enrols (r r' : Subscriptions) (uri : String) (p : ProtocolName) (s : Sequence) (n : Nat) :
    Prop where
  keyed : r'.Keyed
  waits : ∀ key q t,
    r'.waits key q t = r.waits key q t + if uri = key ∧ p = q ∧ s = t then n else 0
  registered : ∀ q t, r'.registered q t = r.registered q t + if p = q ∧ s = t then n else 0

def vacant (r : Subscriptions) (uri : String) (p : ProtocolName) (s : Sequence) : Nat :=
  if .once s ∈ (r.under uri).of p then 0 else 1

/-- All that wait once under a resource move into a list of receivers. -/
structure Drains (r r' : Subscriptions) (uri : String) (l : ReplyTo) : Prop where
  keyed : r'.Keyed
  waits : ∀ key q t, r'.waits key q t = if uri = key then 0 else r.waits key q t
  listed : ∀ q t, listed l q t = r.waits uri q t
  registered : ∀ q t, r'.registered q t + ProtocolGateway.listed l q t = r.registered q t

theorem Keeps.refl {r : Subscriptions} (keyed : r.Keyed) : Keeps r r :=
  ⟨keyed, fun _ _ _ => rfl, fun _ _ => rfl⟩

theorem Keeps.trans {r r' r'' : Subscriptions} (first : Keeps r r') (second : Keeps r' r'') :
    Keeps r r'' :=
  ⟨second.keyed, fun key q t => (second.waits key q t).trans (first.waits key q t),
    fun q t => (second.registered q t).trans (first.registered q t)⟩

theorem Drains.keeps {r r' r'' : Subscriptions} {uri : String} {l : ReplyTo}
    (first : Drains r r' uri l) (second : Keeps r' r'') : Drains r r'' uri l :=
  ⟨second.keyed, fun key q t => (second.waits key q t).trans (first.waits key q t), first.listed,
    fun q t => (second.registered q t).symm ▸ first.registered q t⟩

theorem keeps_store {r : Subscriptions} (keyed : r.Keyed) {uri : String} {ss : Subscribers}
    (same : ∀ q t, ProtocolGateway.listed ss q t = r.waits uri q t) : Keeps r (r.store uri ss) where
  keyed := keyed_store keyed uri ss
  waits key q t := by
    rw [waits_store]
    by_cases here : uri = key
    · rw [if_pos here, same, here]
    · rw [if_neg here]
  registered q t := by
    have sum := registered_store keyed uri ss q t
    rw [same] at sum
    omega

theorem enrols_store {r : Subscriptions} (keyed : r.Keyed) {uri : String} {ss : Subscribers}
    {p : ProtocolName} {s : Sequence} {n : Nat}
    (more : ∀ q t, ProtocolGateway.listed ss q t = r.waits uri q t + if p = q ∧ s = t then n else 0) :
    Enrols r (r.store uri ss) uri p s n where
  keyed := keyed_store keyed uri ss
  waits key q t := by
    rw [waits_store]
    by_cases here : uri = key
    · rw [if_pos here, more, here]
      simp
    · simp [here]
  registered q t := by
    have sum := registered_store keyed uri ss q t
    rw [more] at sum
    omega

theorem vacant_of_free {r : Subscriptions} {p : ProtocolName} {s : Sequence}
    (free : r.registered p s = 0) (uri : String) : r.vacant uri p s = 1 := by
  have absent : Subscriber.once s ∉ (r.under uri).of p :=
    not_mem_of_waits_eq_zero (Nat.le_zero.mp (free ▸ r.waits_le_registered uri p s))
  simp [vacant, absent]

theorem listed_add_once (r : Subscriptions) (uri : String) (p q : ProtocolName) (s t : Sequence) :
    ProtocolGateway.listed ((r.under uri).add p (.once s)) q t =
      r.waits uri q t + if p = q ∧ s = t then r.vacant uri p s else 0 := by
  rw [Subscribers.listed_add]
  by_cases there : Subscriber.once s ∈ (r.under uri).of p <;> simp [there, waits, vacant]

theorem enrols_subscribe {r : Subscriptions} (keyed : r.Keyed) (uri : String) (p : ProtocolName)
    (s : Sequence) : Enrols r (r.subscribe uri p (.once s)) uri p s (r.vacant uri p s) :=
  enrols_store keyed fun q t => listed_add_once r uri p q s t

theorem enrols_after {r : Subscriptions} (keyed : r.Keyed) {uri : String} {ss : Subscribers}
    (first : Keeps r (r.store uri ss)) (p : ProtocolName) (s : Sequence) :
    Enrols r (r.store uri (ss.add p (.once s))) uri p s ((r.store uri ss).vacant uri p s) := by
  refine enrols_store keyed fun q t => ?_
  have added := listed_add_once (r.store uri ss) uri p q s t
  rw [under_store, if_pos rfl, first.waits] at added
  exact added

theorem enrols_observe {r : Subscriptions} (keyed : r.Keyed) (uri : String) (p : ProtocolName)
    (s : Sequence) :
    ∃ n, Enrols r (r.observe uri p s).2 uri p s n ∧ (r.registered p s = 0 → n = 1) := by
  have standing : Keeps r (r.store uri ((r.under uri).add p .standing)) :=
    keeps_store keyed fun q t => by simp [Subscribers.listed_add, waits]
  exact ⟨_, enrols_after keyed standing p s,
    fun free => vacant_of_free ((standing.registered p s).trans free) uri⟩

theorem enrols_unobserve {r : Subscriptions} (keyed : r.Keyed) (uri : String) (p : ProtocolName)
    (s : Sequence) (last : (r.unobserve uri p s).1 = 0) :
    ∃ n, Enrols r (r.unobserve uri p s).2 uri p s n ∧ (r.registered p s = 0 → n = 1) := by
  have left : Keeps r (r.store uri ((r.under uri).remove p .standing)) :=
    keeps_store keyed fun q t => Subscribers.listed_remove_standing _ p q t
  have gone : ((r.under uri).remove p .standing).observers = 0 := last
  have eq : (r.unobserve uri p s).2 =
      r.store uri (((r.under uri).remove p .standing).add p (.once s)) := by
    simp [unobserve, gone]
  rw [eq]
  exact ⟨_, enrols_after keyed left p s,
    fun free => vacant_of_free ((left.registered p s).trans free) uri⟩

theorem keeps_unobserve {r : Subscriptions} (keyed : r.Keyed) (uri : String) (p : ProtocolName)
    (s : Sequence) (more : (r.unobserve uri p s).1 ≠ 0) : Keeps r (r.unobserve uri p s).2 := by
  have observed : ((r.under uri).remove p .standing).observers ≠ 0 := more
  have eq : (r.unobserve uri p s).2 = r.store uri ((r.under uri).remove p .standing) := by
    simp [unobserve, observed]
  rw [eq]
  exact keeps_store keyed fun q t => Subscribers.listed_remove_standing _ p q t

theorem keeps_remove_standing {r : Subscriptions} (keyed : r.Keyed) (uri : String)
    (p : ProtocolName) : Keeps r (r.remove uri p .standing).2 :=
  keeps_store keyed fun q t => Subscribers.listed_remove_standing _ p q t

/-! Draining -/

theorem count_delivered (includeStanding : Bool) (mine : List Subscriber) (s : Sequence) :
    (delivered includeStanding mine).count (.once s) = mine.count (.once s) := by
  rw [delivered, (List.mergeSort_perm _ _).count_eq, List.count_filter (by simp [Subscriber.isOnce])]

theorem listed_delivered (includeStanding : Bool) (ss : Subscribers) (p : ProtocolName)
    (s : Sequence) :
    ProtocolGateway.listed (((ss.map fun e => (e.1, delivered includeStanding e.2)).filter
      fun e => !e.2.isEmpty).mergeSort fun a b => !b.1.before a.1) p s =
      ProtocolGateway.listed ss p s := by
  rw [listed_perm (List.mergeSort_perm _ _), listed_nonempty, ProtocolGateway.listed, total_map]
  apply total_congr
  intro e _
  simp only [count_delivered]

theorem listed_standing (ss : Subscribers) (p : ProtocolName) (s : Sequence) :
    ProtocolGateway.listed ((ss.map fun e => (e.1, e.2.filter (· = .standing))).filter
      fun e => !e.2.isEmpty) p s = 0 := by
  rw [listed_nonempty, ProtocolGateway.listed, total_map]
  apply total_eq_zero
  intro e _
  have none : (e.2.filter (· = Subscriber.standing)).count (.once s) = 0 :=
    List.count_eq_zero.mpr fun member => by simp at member
  simp only [none, ite_self]

theorem drains_drain {r : Subscriptions} (keyed : r.Keyed) (uri : String) (includeStanding : Bool) :
    Drains r (r.drain uri includeStanding).2 uri ((r.drain uri includeStanding).1.getD []) := by
  unfold drain
  cases found : Table.at? r.entries uri with
  | none =>
    have nobody : ∀ q t, r.waits uri q t = 0 := fun q t => by simp [waits, under, found]
    exact {
      keyed := keyed
      waits := fun key q t => by
        by_cases here : uri = key
        · rw [if_pos here, ← here]
          exact nobody q t
        · rw [if_neg here]
      listed := fun q t => (nobody q t).symm
      registered := fun q t => rfl }
  | some ss =>
    have under : r.under uri = ss := by simp [Subscriptions.under, found]
    have all : ∀ q t, r.waits uri q t = ProtocolGateway.listed ss q t := fun q t => by
      rw [waits, under]
    exact {
      keyed := keyed_store keyed uri _
      waits := fun key q t => by rw [waits_store, listed_standing]
      listed := fun q t => (listed_delivered includeStanding ss q t).trans (all q t).symm
      registered := fun q t => by
        have sum := registered_store keyed uri
          ((ss.map fun e => (e.1, e.2.filter (· = .standing))).filter fun e => !e.2.isEmpty) q t
        rw [listed_standing, all] at sum
        simp only [Option.getD_some, listed_delivered]
        exact sum }

end Subscriptions

end ProtocolGateway
