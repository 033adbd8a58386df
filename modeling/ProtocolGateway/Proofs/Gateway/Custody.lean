import Mathlib
import ProtocolGateway.Proofs.Gateway.Accounts

/-!
Custody of requests that wait. While a gateway runs, a request that waits is held in exactly one
place: in its plugin's sink, by an envelope, or in the registry.
-/

namespace ProtocolGateway

/-! Places -/

def Hop.load (hop : Hop) (p : ProtocolName) (s : Sequence) : Nat :=
  Gateway.carried p s (.forward hop)

namespace Traffic

def queued (t : Traffic) (p : ProtocolName) (s : Sequence) : Nat :=
  (t.asked p).countP fun r => r.sequence == s

def held (t : Traffic) (p : ProtocolName) (s : Sequence) : Nat :=
  t.queued p s + total (·.load p s) t.hops + t.interconnection.subscriptions.registered p s

def waiting (t : Traffic) (p : ProtocolName) (s : Sequence) : Nat :=
  if (Table.at? (t.pending p) s).isSome then 1 else 0

theorem waiting_le_one (t : Traffic) (p : ProtocolName) (s : Sequence) : t.waiting p s ≤ 1 := by
  unfold waiting
  split <;> omega

end Traffic

namespace Gateway

theorem queued_eq (g : Gateway) (p : ProtocolName) (s : Sequence) :
    g.queued p s = g.traffic.queued p s := by
  change g.queued p s = (g.askedOf p).countP fun r => r.sequence == s
  unfold queued askedOf
  cases g.entry? p with
  | none => rfl
  | some e =>
    change _ = (e.sink.queue.filterMap Parcel.asking?).countP _
    rw [List.countP_filterMap]
    apply List.countP_congr
    intro parcel _
    match parcel with
    | .toA (.request r) => exact Iff.rfl
    | .toA (.answer m) => exact Iff.rfl
    | .toB _ => exact Iff.rfl

theorem held_eq (g : Gateway) (p : ProtocolName) (s : Sequence) :
    g.held p s = g.traffic.held p s := by
  have tasks (ts : List Task) :
      total (carried p s) ts = total (·.load p s) (ts.filterMap Task.hop?) := by
    induction ts with
    | nil => rfl
    | cons t rest ih =>
      rw [total_cons, ih, List.filterMap_cons]
      cases t with
      | forward hop => rfl
      | consume | respond => exact Nat.zero_add _
  unfold held Traffic.held
  rw [queued_eq, tasks]
  rfl

end Gateway

/-! Loads -/

namespace Keyring

variable (k : Keyring) (r : Request) (m : Message) (p q : ProtocolName) (l : ReplyTo)
  (s u : Sequence) (hops : Nat)

theorem load_entering : Hop.load ⟨.manager, .input, k.asking r q hops⟩ p s =
    if q = p ∧ r.sequence = s then 1 else 0 := by
  simp [Hop.load, Gateway.carried, asking, wrap, Envelope.new]

theorem load_admitted : Hop.load ⟨.input, .interconnection, k.asking r q hops⟩ p s =
    if q = p ∧ r.sequence = s then 1 else 0 := by
  simp [Hop.load, Gateway.carried, asking, wrap, Envelope.new]

theorem load_routed (target : ProtocolName) :
    Hop.load ⟨.interconnection, .manager, k.routed r q target⟩ p s = 0 := rfl

theorem load_arriving : Hop.load ⟨.manager, .interconnection, k.wrap m q⟩ p s = 0 := rfl

theorem load_answering :
    Hop.load ⟨.interconnection, .output, k.answering m q l hops⟩ p s = listed l p s := rfl

theorem load_leaving :
    Hop.load ⟨.output, .manager, k.answering m q l hops⟩ p s = listed l p s := rfl

theorem load_turned : Hop.load (k.turned m q u) p s = if q = p ∧ u = s then 1 else 0 := by
  change listed [(q, [.once u])] p s = _
  rw [listed_cons, listed_nil]
  by_cases same : q = p <;> by_cases number : u = s <;> simp [same, number]

end Keyring

namespace Traffic

variable {t : Traffic}

/-- What moves when a hop is taken out and a stage sends another one on. -/
theorem held_hop (running : t.phase = .running) {before after : List Hop} {taken : Hop}
    (split : t.hops = before ++ taken :: after) (ic : Interconnection) (out : Option Hop)
    (p : ProtocolName) (s : Sequence) :
    held { t with interconnection := ic, hops := t.onward (before ++ after) out } p s +
        taken.load p s + t.interconnection.subscriptions.registered p s =
      t.held p s + total (·.load p s) out.toList + ic.subscriptions.registered p s := by
  have here : t.held p s = t.queued p s + total (·.load p s) (before ++ taken :: after) +
      t.interconnection.subscriptions.registered p s := by
    unfold held
    rw [split]
  have there : held { t with interconnection := ic, hops := t.onward (before ++ after) out } p s =
      t.queued p s + total (·.load p s) (before ++ after ++ out.toList) +
        ic.subscriptions.registered p s := by
    unfold held
    rw [← onward_running running]
    rfl
  rw [here, there]
  simp only [total_append, total_cons]
  omega

theorem held_accepting (t : Traffic) (a : Acceptance) (p : ProtocolName) (s : Sequence) :
    (t.accepting a).held p s = t.held p s + if a.protocol = p ∧ a.sequence = s then 1 else 0 := by
  have queued : (t.accepting a).queued p s =
      t.queued p s + if a.protocol = p ∧ a.sequence = s then 1 else 0 := by
    change (Function.update t.asked a.protocol (t.asked a.protocol ++ [a.sealed]) p).countP _ = _
    rw [Function.update_apply]
    by_cases same : p = a.protocol
    · rw [if_pos same, List.countP_append, List.countP_singleton]
      subst same
      simp [queued, Acceptance.sealed]
    · rw [if_neg same, if_neg fun both => same both.1.symm]
      rfl
  change (t.accepting a).queued p s + total (·.load p s) t.hops +
    t.interconnection.subscriptions.registered p s = _
  rw [queued]
  unfold held
  omega

theorem waiting_accepting (t : Traffic) (a : Acceptance) (p : ProtocolName) (s : Sequence) :
    (t.accepting a).waiting p s = if a.protocol = p ∧ a.sequence = s then 1 else t.waiting p s := by
  have record := t.at?_accepting a p s
  unfold waiting
  by_cases mine : a.protocol = p ∧ a.sequence = s
  · rw [if_pos ⟨mine.1.symm, mine.2⟩] at record
    rw [record, if_pos mine]
    rfl
  · rw [if_neg fun both => mine ⟨both.1.symm, both.2⟩] at record
    rw [record, if_neg mine]

theorem waiting_of_fresh {p : ProtocolName} {s : Sequence}
    (fresh : .cameRound p s ∉ t.round p s) : t.waiting p s = 0 := by
  unfold waiting
  rw [absent_of_fresh fresh]
  rfl

theorem running_of_hop (orderly : t.Orderly) (live : t.Live) {before after : List Hop} {taken : Hop}
    (split : t.hops = before ++ taken :: after) : t.phase = .running :=
  live.resolve_left (split_idle orderly split)

end Traffic

/-! Balance -/

/-- What waits and what is held belong together, but for numbers that came round and for receivers
that the cache has cost. -/
structure Balanced (t : Traffic) (log : List Note) : Prop where
  within : t.Live → ∀ p s, .cameRound p s ∉ log → t.held p s ≤ t.waiting p s
  even : t.Live → .brokeOff ∉ log → ∀ p s, .cameRound p s ∉ log → t.held p s = t.waiting p s
  found : t.Live → ∀ p s, .missed p s ∈ log → .cameRound p s ∈ log

namespace Balanced

variable {t t' : Traffic} {log notes : List Note}

theorem new (config : ManagerConfig) (cache : ReplyCache) :
    Balanced (Gateway.new config cache).traffic [] where
  within _ _ _ _ := Nat.le_refl 0
  even _ _ _ _ _ := rfl
  found _ _ _ member := nomatch member

/-- A step that takes as much from what is held as from what waits. -/
theorem flow (balanced : Balanced t log) (live : t'.Live → t.Live)
    (silent : ∀ p s, .missed p s ∉ notes)
    (moved : t'.Live → ∀ p s, .cameRound p s ∉ log ++ notes → t.held p s ≤ t.waiting p s →
      t'.held p s + t.waiting p s = t.held p s + t'.waiting p s ∨
        .brokeOff ∈ notes ∧ t'.held p s ≤ t.held p s ∧ t'.waiting p s = t.waiting p s) :
    Balanced t' (log ++ notes) where
  within alive p s once := by
    have before := balanced.within (live alive) p s fun old => once (List.mem_append_left _ old)
    rcases moved alive p s once before with even | ⟨_, fewer, same⟩ <;> omega
  even alive whole p s once := by
    have before := balanced.even (live alive) (fun old => whole (List.mem_append_left _ old)) p s
      fun old => once (List.mem_append_left _ old)
    rcases moved alive p s once before.le with even | ⟨broken, _⟩
    · omega
    · exact absurd (List.mem_append_right _ broken) whole
  found alive p s member :=
    List.mem_append_left _ (balanced.found (live alive) p s
      ((List.mem_append.mp member).resolve_right (silent p s)))

end Balanced

/-! The interconnection stage -/

theorem load_takes {k : Keyring} {ic ic' : Interconnection} {r : Request} {q : ProtocolName}
    {out : Option Hop} (takes : Interconnection.Takes k ic r q ic' out) (p : ProtocolName)
    (s : Sequence)
    (once : q = p → r.sequence = s → ic.subscriptions.registered p s = 0) :
    total (·.load p s) out.toList + ic'.subscriptions.registered p s =
      ic.subscriptions.registered p s + if q = p ∧ r.sequence = s then 1 else 0 := by
  have turned (m : Message) : total (·.load p s) (some (k.turned m q r.sequence)).toList =
      if q = p ∧ r.sequence = s then 1 else 0 := by
    rw [Option.toList_some, total_cons, total_nil, Nat.add_zero, Keyring.load_turned]
  cases takes with
  | refused cause unreadable => rw [turned, Nat.add_comm]
  | cached uri hit named reads held => rw [turned, Nat.add_comm]
  | acknowledged uri subscriptions named ends kept =>
    rw [turned, Nat.add_comm]
    exact congrArg (· + _) (kept.registered p s)
  | enrolled uri subscriptions cache n out named more alone less next =>
    have onward : total (·.load p s) out.toList = 0 := by
      rcases next with rfl | rfl <;> rfl
    rw [onward, Nat.zero_add]
    change subscriptions.registered p s = _
    rw [more.registered]
    by_cases mine : q = p ∧ r.sequence = s
    · obtain ⟨rfl, rfl⟩ := mine
      rw [alone (once rfl rfl)]
    · rw [if_neg mine, if_neg mine]

theorem load_hears {k : Keyring} {ic ic' : Interconnection} {m : Message} {q : ProtocolName}
    {result : StageResult} (hears : Interconnection.Hears k ic m q ic' result) (p : ProtocolName)
    (s : Sequence) :
    total (·.load p s) (Traffic.sent result).toList + ic'.subscriptions.registered p s =
        ic.subscriptions.registered p s ∨
      .brokeOff ∈ Gateway.breakNotes result ∧ Traffic.sent result = none ∧
        ic'.subscriptions.registered p s ≤ ic.subscriptions.registered p s := by
  cases hears with
  | unreadable cause lost => exact Or.inl (Nat.zero_add _)
  | unmatched key subscriptions cause about drained =>
    left
    have sum := drained.registered p s
    rw [listed_nil, Nat.add_zero] at sum
    exact (Nat.zero_add _).trans sum
  | brokenOff key subscriptions cache l about drained less =>
    right
    have sum := drained.registered p s
    exact ⟨List.mem_singleton.mpr rfl, rfl, Nat.le_of_add_right_le sum.le⟩
  | matched key subscriptions cache l about drained stored receivers =>
    left
    have sum := drained.registered p s
    change listed l p s + 0 + subscriptions.registered p s = _
    omega

/-! Receipts -/

theorem count_receipts (l : ReplyTo) (p : ProtocolName) (s : Sequence) :
    (receipts l).count (p, s) = listed l p s := by
  have mine (q : ProtocolName) (subscribers : List Subscriber) :
      ((subscribers.filterMap Subscriber.sequence?).map fun u => (q, u)).count (p, s) =
        if q = p then subscribers.count (.once s) else 0 := by
    induction subscribers with
    | nil => simp
    | cons x rest ih =>
      cases x with
      | standing =>
        rw [List.count_cons_of_ne (by simp), ← ih]
        rfl
      | once u =>
        change ((q, u) :: (rest.filterMap Subscriber.sequence?).map fun u => (q, u)).count (p, s) = _
        rw [List.count_cons, List.count_cons, ih]
        by_cases same : q = p <;> by_cases number : u = s <;> simp [same, number]
  induction l with
  | nil => rfl
  | cons e rest ih =>
    change ((e.2.filterMap Subscriber.sequence?).map (fun u => (e.1, u)) ++ receipts rest).count (p, s) = _
    rw [List.count_append, mine, ih]
    rfl

theorem held_resolve (t : Traffic) (m : Message) (x : ProtocolName × Sequence) (p : ProtocolName)
    (s : Sequence) : (t.resolve m x).held p s = t.held p s := by
  have beside := t.beside_resolve m x
  unfold Traffic.held Traffic.queued
  rw [beside.asked, beside.hops, beside.interconnection]

theorem waiting_resolve (t : Traffic) (m : Message) (x : ProtocolName × Sequence) (p : ProtocolName)
    (s : Sequence) : (t.resolve m x).waiting p s = if x = (p, s) then 0 else t.waiting p s := by
  unfold Traffic.waiting
  rw [Traffic.at?_resolve]
  by_cases same : x = (p, s) <;> simp [same]

/-- While each receipt stands for one request that waits, resolving them keeps the balance and misses
nobody. -/
theorem resolve_receipts (t : Traffic) (m : Message) (xs : List (ProtocolName × Sequence))
    (p : ProtocolName) (s : Sequence)
    (within : t.held p s + xs.count (p, s) ≤ t.waiting p s) :
    (xs.foldl (·.resolve m) t).held p s = t.held p s ∧
      (xs.foldl (·.resolve m) t).waiting p s + xs.count (p, s) = t.waiting p s ∧
      .missed p s ∉ t.missed m xs := by
  induction xs generalizing t with
  | nil => exact ⟨rfl, rfl, List.not_mem_nil⟩
  | cons x rest ih =>
    have one := t.waiting_le_one p s
    rw [List.count_cons] at within
    -- One receipt less, and one request less that waits.
    have still : (t.resolve m x).held p s + rest.count (p, s) ≤ (t.resolve m x).waiting p s := by
      rw [held_resolve, waiting_resolve]
      by_cases same : x = (p, s)
      · simp only [same, beq_self_eq_true, ↓reduceIte] at within ⊢
        omega
      · simp only [same, ↓reduceIte]
        omega
    obtain ⟨held, waiting, missed⟩ := ih (t.resolve m x) still
    rw [held_resolve] at held
    rw [waiting_resolve] at waiting
    refine ⟨held, ?_, fun member => ?_⟩
    · rw [List.foldl_cons, List.count_cons]
      by_cases same : x = (p, s)
      · simp only [same, beq_self_eq_true, ↓reduceIte] at within waiting ⊢
        omega
      · have other : (x == (p, s)) = false := by simpa using same
        simp only [same, other, Bool.false_eq_true, ↓reduceIte] at within waiting ⊢
        omega
    · rcases List.mem_append.mp member with now | later
      · split at now
        · rename_i nobody
          cases List.mem_singleton.mp now
          have none : t.waiting x.1 x.2 = 0 := by
            unfold Traffic.waiting
            rw [Option.isNone_iff_eq_none.mp nobody]
            rfl
          simp only [Prod.mk.eta, beq_self_eq_true, ↓reduceIte] at within
          omega
        · cases now
      · exact missed later

/-! Steps -/

namespace Balanced

variable {t t' : Traffic} {log notes : List Note}

theorem relay (balanced : Balanced t log) (orderly : t.Orderly) {before after : List Hop}
    {taken : Hop} (split : t.hops = before ++ taken :: after) {out : Option Hop}
    (same : ∀ p s, total (·.load p s) out.toList = taken.load p s) :
    Balanced { t with hops := t.onward (before ++ after) out } (log ++ []) := by
  refine balanced.flow id (fun p s => List.not_mem_nil) fun live p s _ _ => Or.inl ?_
  have sum := Traffic.held_hop (Traffic.running_of_hop orderly live split) split t.interconnection
    out p s
  rw [same] at sum
  change Traffic.held { t with hops := t.onward (before ++ after) out } p s + _ = _ + t.waiting p s
  change Traffic.held { t with hops := t.onward (before ++ after) out } p s + _ + _ = _ at sum
  omega

theorem accept (balanced : Balanced t log) (a : Acceptance) (running : t.phase = .running)
    (q : Sequencer) :
    Balanced { t.accepting a with sequencer := q }
      (log ++ (.drew a.sequence :: t.round a.protocol a.sequence ++ [.accepted a])) := by
  refine balanced.flow (fun _ => Or.inr running) (fun p s member => ?_) fun _ p s once within =>
    Or.inl ?_
  · rcases Traffic.mem_accepted member with drew | round | last
    · cases drew
    · cases (Traffic.mem_round round).1
    · cases last
  · change (t.accepting a).held p s + t.waiting p s = t.held p s + (t.accepting a).waiting p s
    rw [Traffic.held_accepting, Traffic.waiting_accepting]
    by_cases mine : a.protocol = p ∧ a.sequence = s
    · obtain ⟨rfl, rfl⟩ := mine
      have free : t.waiting a.protocol a.sequence = 0 := Traffic.waiting_of_fresh fun round =>
        once (List.mem_append_right _ (List.mem_append_left _ (List.mem_cons_of_mem _ round)))
      simp only [and_self, ↓reduceIte]
      omega
    · rw [if_neg mine, if_neg mine, Nat.add_zero]

theorem refuse (balanced : Balanced t log) (p : ProtocolName) (r : Request)
    (running : t.phase = .running) (exchanges : List Exchange) :
    Balanced { t with
      sequencer := (t.draw r).2
      pending := Function.update t.pending p (Table.erase (t.pending p) (t.draw r).1)
      exchanges := exchanges } (log ++ .drew (t.draw r).1 :: t.round p (t.draw r).1) := by
  refine balanced.flow (fun _ => Or.inr running) (fun q s member => ?_) fun _ q s once _ =>
    Or.inl ?_
  · rcases Traffic.mem_refused member with drew | round
    · cases drew
    · cases (Traffic.mem_round round).1
  · -- Nobody waited under the number, or it came round.
    have waiting : Table.at? (Function.update t.pending p
        (Table.erase (t.pending p) (t.draw r).1) q) s = Table.at? (t.pending q) s := by
      rw [Traffic.at?_refused]
      split
      · rename_i here
        obtain ⟨rfl, rfl⟩ := here
        exact (Traffic.absent_of_fresh fun round =>
          once (List.mem_append_right _ (List.mem_cons_of_mem _ round))).symm
      · rfl
    change t.held q s + t.waiting q s = t.held q s + if (Table.at? _ s).isSome then 1 else 0
    rw [waiting]
    rfl

theorem enter (balanced : Balanced t log) (orderly : t.Orderly) (p : ProtocolName) (r : Request)
    (rest : List Request) (queue : t.asked p = r :: rest) :
    Balanced { t with
      asked := Function.update t.asked p rest
      hops := t.onward t.hops (some ⟨.manager, .input, t.keys.asking r p 0⟩) } (log ++ []) := by
  refine balanced.flow id (fun q s => List.not_mem_nil) fun live q s _ _ => Or.inl ?_
  have running : t.phase = .running := live.resolve_left fun created => by
    have empty := ((orderly.idle created).2 p).2
    rw [queue] at empty
    cases empty
  -- The request leaves the queue, and the hop that takes its place carries it.
  have queued : t.queued q s = (Function.update t.asked p rest q).countP (fun r => r.sequence == s) +
      if p = q ∧ r.sequence = s then 1 else 0 := by
    unfold Traffic.queued
    rw [Function.update_apply]
    by_cases same : q = p
    · subst same
      rw [if_pos rfl, queue, List.countP_cons]
      simp
    · rw [if_neg same, if_neg fun both => same both.1.symm, Nat.add_zero]
  have hops : total (·.load q s) (t.onward t.hops (some ⟨.manager, .input, t.keys.asking r p 0⟩)) =
      total (·.load q s) t.hops + if p = q ∧ r.sequence = s then 1 else 0 := by
    rw [Traffic.onward_running running, total_append, Option.toList_some, total_cons, total_nil,
      Keyring.load_entering, Nat.add_zero]
  let hop : Hop := ⟨.manager, .input, t.keys.asking r p 0⟩
  let t' : Traffic := { t with
    asked := Function.update t.asked p rest
    hops := t.onward t.hops (some hop) }
  change t'.queued q s + total (·.load q s) (t.onward t.hops (some hop)) +
    t.interconnection.subscriptions.registered q s + t.waiting q s = t.held q s + t.waiting q s
  change t.queued q s = t'.queued q s + _ at queued
  rw [hops]
  unfold Traffic.held
  rw [queued]
  omega

theorem resolve (balanced : Balanced t log) {before after : List Hop}
    {m : Message} {p : ProtocolName} {l : ReplyTo} {hops : Nat}
    (split : t.hops = before ++ ⟨.output, .manager, t.keys.answering m p l hops⟩ :: after) :
    Balanced ((receipts l).foldl (·.resolve m) { t with hops := before ++ after })
      (log ++ t.missed m (receipts l)) := by
  let left : Traffic := { t with hops := before ++ after }
  have beside := left.beside_resolveAll m (receipts l)
  have back : ((receipts l).foldl (·.resolve m) left).Live → t.Live := by
    unfold Traffic.Live
    rw [beside.phase]
    exact id
  have held (q : ProtocolName) (s : Sequence) : left.held q s + listed l q s = t.held q s := by
    change t.queued q s + total (·.load q s) (before ++ after) +
      t.interconnection.subscriptions.registered q s + listed l q s = t.held q s
    unfold Traffic.held
    rw [split]
    simp only [total_append, total_cons, Keyring.load_leaving]
    omega
  -- The hop holds what its receipts resolve, so each receipt finds a request that waits.
  have all (q : ProtocolName) (s : Sequence) (within : t.held q s ≤ t.waiting q s) :=
    resolve_receipts left m (receipts l) q s (by
      rw [count_receipts, held]
      exact within)
  have missed : left.missed m (receipts l) = t.missed m (receipts l) := Gateway.missed_hops t _ m _
  refine ⟨fun live q s once => ?_, fun live whole q s once => ?_, fun live q s member => ?_⟩
  · have within := balanced.within (back live) q s fun old => once (List.mem_append_left _ old)
    obtain ⟨same, fewer, _⟩ := all q s within
    rw [count_receipts] at fewer
    have sum := held q s
    change _ + _ = t.waiting q s at fewer
    change Traffic.held (List.foldl _ left _) q s ≤ Traffic.waiting (List.foldl _ left _) q s
    omega
  · have even := balanced.even (back live) (fun old => whole (List.mem_append_left _ old)) q s
      fun old => once (List.mem_append_left _ old)
    obtain ⟨same, fewer, _⟩ := all q s even.le
    rw [count_receipts] at fewer
    have sum := held q s
    change _ + _ = t.waiting q s at fewer
    change Traffic.held (List.foldl _ left _) q s = Traffic.waiting (List.foldl _ left _) q s
    omega
  · rcases List.mem_append.mp member with old | new
    · exact List.mem_append_left _ (balanced.found (back live) q s old)
    · by_contra once
      have within := balanced.within (back live) q s fun old => once (List.mem_append_left _ old)
      exact (all q s within).2.2 (missed ▸ new)

theorem take (balanced : Balanced t log) (orderly : t.Orderly) {before after : List Hop}
    {r : Request} {q : ProtocolName} {ic : Interconnection} {out : Option Hop}
    (split : t.hops = before ++ ⟨.input, .interconnection, t.keys.asking r q 1⟩ :: after)
    (takes : Interconnection.Takes t.keys t.interconnection r q ic out) :
    Balanced { t with interconnection := ic, hops := t.onward (before ++ after) out }
      (log ++ [.crossed q (.request r)]) := by
  refine balanced.flow id (fun p s member => ?_) fun live p s _ within => Or.inl ?_
  · cases List.mem_singleton.mp member
  · have sum := Traffic.held_hop (Traffic.running_of_hop orderly live split) split ic out p s
    rw [Keyring.load_admitted] at sum
    have one := t.waiting_le_one p s
    have some := le_total (·.load p s) (split ▸ List.mem_append_right before List.mem_cons_self)
    -- The hop itself holds the request, so nothing can be on record yet.
    have flow := load_takes takes p s fun here number => by
      rw [Keyring.load_admitted, if_pos ⟨here, number⟩] at some
      unfold Traffic.held at within
      omega
    change Traffic.held { t with interconnection := ic, hops := t.onward (before ++ after) out } p s +
      t.waiting p s = t.held p s + t.waiting p s
    omega

theorem hear (balanced : Balanced t log) (orderly : t.Orderly) {before after : List Hop}
    {m : Message} {q : ProtocolName} {ic : Interconnection} {result : StageResult}
    (split : t.hops = before ++ ⟨.manager, .interconnection, t.keys.wrap m q⟩ :: after)
    (hears : Interconnection.Hears t.keys t.interconnection m q ic result) :
    Balanced { t with
      interconnection := ic
      hops := t.onward (before ++ after) (Traffic.sent result) }
      (log ++ .crossed q m :: Gateway.breakNotes result) := by
  refine balanced.flow id (fun p s member => ?_) fun live p s _ within => ?_
  · rcases List.mem_cons.mp member with crossed | broken
    · cases crossed
    · cases mem_breakNotes broken
  · have sum := Traffic.held_hop (Traffic.running_of_hop orderly live split) split ic
      (Traffic.sent result) p s
    rw [Keyring.load_arriving] at sum
    let t' : Traffic := { t with
      interconnection := ic
      hops := t.onward (before ++ after) (Traffic.sent result) }
    change t'.held p s + t.waiting p s = t.held p s + t.waiting p s ∨
      _ ∧ t'.held p s ≤ t.held p s ∧ t.waiting p s = t.waiting p s
    change t'.held p s + _ + _ = _ at sum
    -- Either the receivers go on with the answer, or the cache has cost them.
    rcases load_hears hears p s with even | ⟨broken, nothing, fewer⟩
    · left
      omega
    · right
      rw [nothing, Option.toList_none, total_nil] at sum
      exact ⟨List.mem_cons_of_mem _ broken, by omega, rfl⟩

theorem arrive (balanced : Balanced t log) (p : ProtocolName) (m : Message) :
    Balanced { t with
      hops := t.onward t.hops (some ⟨.manager, .interconnection, t.keys.wrap m p⟩) }
      (log ++ []) := by
  refine balanced.flow id (fun q s => List.not_mem_nil) fun live q s _ _ => Or.inl ?_
  let hop : Hop := ⟨.manager, .interconnection, t.keys.wrap m p⟩
  have hops : total (·.load q s) (t.onward t.hops (some hop)) = total (·.load q s) t.hops := by
    rcases live with created | running
    · rw [Traffic.onward_created (t := t) created]
    · rw [Traffic.onward_running (t := t) running, total_append]
      rfl
  change t.queued q s + total (·.load q s) (t.onward t.hops (some hop)) +
    t.interconnection.subscriptions.registered q s + t.waiting q s = t.held q s + t.waiting q s
  rw [hops]
  rfl

theorem step (balanced : Balanced t log) (orderly : t.Orderly) (step : t.Step notes t') :
    Balanced t' (log ++ notes) := by
  have back := step.live
  cases step with
  | refused p r running => exact balanced.refuse p r running _
  | accepted a running number nonzero new => exact balanced.accept a running _
  | entered p r rest queue => exact balanced.enter orderly p r rest queue
  | resolved before after m p l hops split answer => exact balanced.resolve split
  | admitted before after r p sequenced split =>
    refine balanced.relay orderly split fun q s => ?_
    rw [Option.toList_some, total_cons, total_nil, Keyring.load_entering, Keyring.load_admitted,
      Nat.add_zero]
  | delivered before after r p target out split next =>
    refine balanced.relay orderly split fun q s => ?_
    rw [Keyring.load_routed]
    rcases next with rfl | ⟨m, q', rfl⟩
    · rfl
    · rfl
  | released before after m p l hops answer receivers early split =>
    refine balanced.relay orderly split fun q s => ?_
    rw [Option.toList_some, total_cons, total_nil, Keyring.load_leaving, Keyring.load_answering,
      Nat.add_zero]
  | taken before after r q ic out split takes => exact balanced.take orderly split takes
  | heard before after m q ic result split hears => exact balanced.hear orderly split hears
  | arrived p m => exact balanced.arrive p m
  | drawn r running =>
    refine balanced.flow back (fun q s member => ?_) fun _ q s _ _ => Or.inl rfl
    cases List.mem_singleton.mp member
  -- A gateway that is not live keeps nothing in custody.
  | stopped exchanges drops =>
    exact balanced.flow back (fun q s => List.not_mem_nil) fun live q s _ _ => by
      rcases live with created | running <;> contradiction
  | gone =>
    exact balanced.flow back (fun q s => List.not_mem_nil) fun live q s _ _ => by
      rcases live with created | running <;> contradiction
  | quiet | abandoned | started =>
    exact balanced.flow back (fun q s => List.not_mem_nil) fun _ q s _ _ => Or.inl rfl

end Balanced

/-! Custody -/

/-- What an accepted request has come to: it waits under its number, its caller has let go, or it has
an outcome that answers to its number. -/
def Gateway.Keeps (g : Gateway) (a : Acceptance) : Prop :=
  (g.pending? a.protocol a.sequence = some a.ticket ∧
    (g.exchanges[a.ticket]? = some .waiting ∨ g.exchanges[a.ticket]? = some .abandoned)) ∨
  g.exchanges[a.ticket]? = some .abandoned ∨
  ∃ x, g.exchanges[a.ticket]? = some (.resolved x) ∧ x.sequence? = some a.sequence

theorem Gateway.pendingOf_of_refusal {g : Gateway} {p : ProtocolName} {r : Request} {e : LinkError}
    (fresh : ∀ q s, .cameRound q s ∉ g.submitNotes p r) (failed : (g.submit p r).2 = .error e) :
    (g.submit p r).1.pendingOf = g.pendingOf := by
  have submits := g.submit_submits p r
  change (g.submit p r).1.traffic.pending = g.traffic.pending
  generalize g.traffic = t, (g.submit p r).1.traffic = t', g.submitNotes p r = notes,
    (g.submit p r).2 = outcome at submits fresh failed ⊢
  cases submits with
  | turnedDown | drawn => rfl
  | refused e running =>
    have absent : Table.at? (t.pending p) (t.draw r).1 = none :=
      Traffic.absent_of_fresh fun round => fresh p (t.draw r).1 (List.mem_cons_of_mem _ round)
    change Function.update t.pending p _ = t.pending
    rw [Table.erase_of_absent absent, Function.update_eq_self]
  | accepted => cases failed

theorem History.balanced (config : ManagerConfig) (cache : ReplyCache) (moves : List Move) :
    Balanced (run config cache moves).gateway.traffic (run config cache moves).log :=
  (holds (P := Balanced) (.new config cache)
    (fun _ _ _ _ orderly before step => before.step orderly step) moves).2

open History in
/-- While a gateway runs, fewer requests than a range has numbers were submitted in either range and
the cache has not broken off, a request waits exactly when it is held, and then in one place. So no
accepted request is lost, no answer misses its request, none has two outcomes, and a refusal leaves
what waits as it was. -/
theorem waiting_requests_in_custody (config : ManagerConfig) (cache : ReplyCache)
    (moves : List Move) (few : ∀ observes, submissions observes moves < 0x7FFFFFFF)
    (whole : .brokeOff ∉ (run config cache moves).log)
    (running : (run config cache moves).gateway.phase = .running) :
    (∀ p s, ((run config cache moves).gateway.pending? p s).isSome ↔
      (run config cache moves).gateway.held p s = 1) ∧
    (∀ p s, (run config cache moves).gateway.held p s ≤ 1) ∧
    (∀ a, .accepted a ∈ (run config cache moves).log → (run config cache moves).gateway.Keeps a) ∧
    (∀ a x, .accepted a ∈ (run config cache moves).log →
      (run config cache moves).gateway.exchanges[a.ticket]? = some (.resolved x) → ∀ more,
      (run config cache (moves ++ more)).gateway.exchanges[a.ticket]? = some (.resolved x)) ∧
    (∀ p s, .missed p s ∉ (run config cache moves).log) ∧
    (∀ p r e,
      (∀ observes, submissions observes (moves ++ [.event (.submit p r)]) < 0x7FFFFFFF) →
      ((run config cache moves).gateway.submit p r).2 = .error e →
      ((run config cache moves).gateway.submit p r).1.pendingOf =
        (run config cache moves).gateway.pendingOf) := by
  obtain ⟨orderly, numbered, accounted⟩ := facts config cache moves
  have balanced := History.balanced config cache moves
  have once (p : ProtocolName) (s : Sequence) := not_round config cache few p s
  have live : (run config cache moves).gateway.traffic.Live := Or.inr running
  -- With no number come round and no receiver lost to the cache, as much is held as waits.
  have even (p : ProtocolName) (s : Sequence) :
      (run config cache moves).gateway.held p s =
        (run config cache moves).gateway.traffic.waiting p s := by
    rw [Gateway.held_eq]
    exact balanced.even live whole p s (once p s)
  refine ⟨fun p s => ?_, fun p s => ?_, fun a member => ?_, fun a x _ ended more => ?_,
    fun p s member => ?_, fun p r e fewer failed => ?_⟩
  · rw [even, Gateway.pending?_eq]
    unfold Traffic.waiting
    change (Table.at? ((run config cache moves).gateway.traffic.pending p) s).isSome = true ↔ _
    split
    · simp_all
    · simp_all
  · rw [even]
    exact Traffic.waiting_le_one _ p s
  · have issued := accounted.issued a member
    change a.ticket < (run config cache moves).gateway.exchanges.length at issued
    cases exchange : (run config cache moves).gateway.exchanges[a.ticket]? with
    | none => exact absurd (List.getElem?_eq_none_iff.mp exchange) (Nat.not_le_of_lt issued)
    | some e =>
      cases e with
      | waiting =>
        have record := accounted.onRecord live a member exchange
        exact Or.inl ⟨(Gateway.pending?_eq _ _ _).trans record, Or.inl exchange⟩
      | abandoned => exact Or.inr (Or.inl exchange)
      | resolved x =>
        rcases accounted.ended a member x exchange with number | ⟨_, dead | round⟩
        · exact Or.inr (Or.inr ⟨x, exchange, number⟩)
        · exact absurd live dead
        · exact absurd round (once _ _)
  · exact outcome_stays config cache moves more ended
  · exact once p s (balanced.found live p s member)
  · -- The submission itself draws a number, which must not come round either.
    have fresh (q : ProtocolName) (s : Sequence) :
        .cameRound q s ∉ (run config cache moves).gateway.submitNotes p r := fun member => by
      have none := not_round config cache fewer q s
      rw [run_append] at none
      exact none (List.mem_append_right _ member)
    exact Gateway.pendingOf_of_refusal fresh failed

def firstRead : List Move :=
  [.register (.origin (.new (.of "app"))), .start,
    .event (.submit (.of "app") (.new .read "/coap/dev/temp")), .event (.run 0), .event (.run 0),
    .event (.run 0)]

theorem first_read_in_custody :
    (History.run .standard .off firstRead).gateway.held (.of "app") 1 = 1 :=
  ((waiting_requests_in_custody .standard .off firstRead (by decide) (by decide +kernel)
    (by decide +kernel)).1 (.of "app") 1).mp (by decide +kernel)

end ProtocolGateway
