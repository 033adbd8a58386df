import Mathlib
import ProtocolGateway.Proofs.Gateway.Moving

/-!
What every history keeps in order: the hops are lawful, the registry has one entry for each resource,
and nothing is under way before the start. A property of traffic and log that every step preserves
holds of every history.
-/

namespace ProtocolGateway

namespace Traffic

/-! Hops -/

theorem mem_onward {t : Traffic} {hops : List Hop} {out : Option Hop} {hop : Hop}
    (member : hop ∈ t.onward hops out) : hop ∈ hops ∨ out = some hop := by
  cases out with
  | none => exact Or.inl member
  | some next =>
    unfold onward at member
    dsimp only at member
    split at member
    · rcases List.mem_append.mp member with old | new
      · exact Or.inl old
      · exact Or.inr (congrArg some (List.mem_singleton.mp new).symm)
    · exact Or.inl member

theorem mem_left {before after : List Hop} {taken hop : Hop} (member : hop ∈ before ++ after) :
    hop ∈ before ++ taken :: after := by
  rcases List.mem_append.mp member with early | late
  · exact List.mem_append_left _ early
  · exact List.mem_append_right _ (List.mem_cons_of_mem _ late)

theorem onward_running {t : Traffic} (running : t.phase = .running) (hops : List Hop)
    (out : Option Hop) : t.onward hops out = hops ++ out.toList := by
  cases out with
  | none => exact (List.append_nil hops).symm
  | some hop =>
    unfold onward
    simp [running]

theorem onward_created {t : Traffic} (created : t.phase = .created) (hops : List Hop)
    (out : Option Hop) : t.onward hops out = hops := by
  cases out with
  | none => rfl
  | some hop =>
    unfold onward
    simp [created]

/-! Resolving -/

structure Beside (t t' : Traffic) : Prop where
  phase : t'.phase = t.phase
  keys : t'.keys = t.keys
  sequencer : t'.sequencer = t.sequencer
  interconnection : t'.interconnection = t.interconnection
  asked : t'.asked = t.asked
  hops : t'.hops = t.hops

theorem beside_resolve (t : Traffic) (m : Message) (x : ProtocolName × Sequence) :
    Beside t (t.resolve m x) := by
  unfold resolve
  split <;> exact ⟨rfl, rfl, rfl, rfl, rfl, rfl⟩

theorem beside_resolveAll (t : Traffic) (m : Message) (xs : List (ProtocolName × Sequence)) :
    Beside t (xs.foldl (·.resolve m) t) := by
  induction xs generalizing t with
  | nil => exact ⟨rfl, rfl, rfl, rfl, rfl, rfl⟩
  | cons x rest ih =>
    have first := t.beside_resolve m x
    have later := ih (t.resolve m x)
    exact ⟨later.phase.trans first.phase, later.keys.trans first.keys,
      later.sequencer.trans first.sequencer, later.interconnection.trans first.interconnection,
      later.asked.trans first.asked, later.hops.trans first.hops⟩

theorem at?_resolve (t : Traffic) (m : Message) (x : ProtocolName × Sequence) (p : ProtocolName)
    (s : Sequence) :
    Table.at? ((t.resolve m x).pending p) s =
      if x = (p, s) then none else Table.at? (t.pending p) s := by
  obtain ⟨q, u⟩ := x
  unfold resolve
  dsimp only
  cases found : Table.at? (t.pending q) u with
  | none =>
    dsimp only
    split
    · rename_i same
      cases same
      exact found
    · rfl
  | some k =>
    dsimp only
    rw [Function.update_apply]
    by_cases here : p = q
    · subst here
      rw [if_pos rfl, Table.at?_erase]
      simp only [Prod.mk.injEq, true_and]
    · have other : (q, u) ≠ (p, s) := fun same => here (congrArg Prod.fst same).symm
      rw [if_neg here, if_neg other]

theorem waits_resolve {t : Traffic} {m : Message} {x : ProtocolName × Sequence} {p : ProtocolName}
    {s : Sequence} {k : Ticket} (waits : Table.at? ((t.resolve m x).pending p) s = some k) :
    x ≠ (p, s) ∧ Table.at? (t.pending p) s = some k := by
  rw [at?_resolve] at waits
  split at waits
  · cases waits
  · rename_i other
    exact ⟨other, waits⟩

theorem waits_resolveAll {t : Traffic} {m : Message} {xs : List (ProtocolName × Sequence)}
    {p : ProtocolName} {s : Sequence} {k : Ticket}
    (waits : Table.at? ((xs.foldl (·.resolve m) t).pending p) s = some k) :
    Table.at? (t.pending p) s = some k := by
  induction xs generalizing t with
  | nil => exact waits
  | cons x rest ih => exact (waits_resolve (ih waits)).2

theorem exchange_resolve (t : Traffic) (m : Message) (x : ProtocolName × Sequence) (k : Ticket) :
    (t.resolve m x).exchanges[k]? =
      if Table.at? (t.pending x.1) x.2 = some k ∧ t.exchanges[k]? = some .waiting then
        some (.resolved (Gateway.resolutionOf m x.2))
      else t.exchanges[k]? := by
  unfold resolve
  cases Table.at? (t.pending x.1) x.2 with
  | none => simp
  | some j =>
    dsimp only
    rw [concluded_at]
    by_cases same : j = k
    · subst same
      simp
    · simp [same]

theorem resolved_resolveAll {t : Traffic} {k : Ticket} {x : Resolution}
    (there : t.exchanges[k]? = some (.resolved x)) (m : Message)
    (xs : List (ProtocolName × Sequence)) :
    (xs.foldl (·.resolve m) t).exchanges[k]? = some (.resolved x) := by
  induction xs generalizing t with
  | nil => exact there
  | cons y rest ih =>
    apply ih
    rw [exchange_resolve, if_neg, there]
    rintro ⟨_, waiting⟩
    cases there.symm.trans waiting

theorem length_resolve (t : Traffic) (m : Message) (x : ProtocolName × Sequence) :
    (t.resolve m x).exchanges.length = t.exchanges.length := by
  unfold resolve
  split
  · rfl
  · exact length_concluded _ _ _

theorem length_resolveAll (t : Traffic) (m : Message) (xs : List (ProtocolName × Sequence)) :
    (xs.foldl (·.resolve m) t).exchanges.length = t.exchanges.length := by
  induction xs generalizing t with
  | nil => rfl
  | cons x rest ih => rw [List.foldl_cons, ih, length_resolve]

/-! Order -/

theorem lawful_onward {t : Traffic} (orderly : t.Orderly) {before after : List Hop} {taken : Hop}
    (split : t.hops = before ++ taken :: after) {out : Option Hop}
    (next : ∀ hop, out = some hop → Lawful t.keys hop) :
    ∀ hop ∈ t.onward (before ++ after) out, Lawful t.keys hop := by
  intro hop member
  rcases mem_onward member with old | new
  · exact orderly.lawful hop (split ▸ mem_left old)
  · exact next hop new

theorem lawful_takes {k : Keyring} {ic ic' : Interconnection} {r : Request} {p : ProtocolName}
    {out : Option Hop} (takes : Interconnection.Takes k ic r p ic' out) (hop : Hop)
    (next : out = some hop) : Lawful k hop := by
  cases takes with
  | refused cause _ | cached uri hit _ _ _ | acknowledged uri _ _ _ _ =>
    cases next
    exact .answering _ _ _ 2 rfl (List.cons_ne_nil _ _) (Or.inr rfl)
  | enrolled uri _ _ _ _ _ _ _ _ route =>
    rcases route with rfl | rfl
    · cases next
    · cases next
      exact .routed _ _ _

theorem keyed_takes {k : Keyring} {ic ic' : Interconnection} {r : Request} {p : ProtocolName}
    {out : Option Hop} (takes : Interconnection.Takes k ic r p ic' out)
    (keyed : ic.subscriptions.Keyed) : ic'.token = ic.token ∧ ic'.subscriptions.Keyed := by
  cases takes with
  | refused | cached => exact ⟨rfl, keyed⟩
  | acknowledged _ _ _ _ kept => exact ⟨rfl, kept.keyed⟩
  | enrolled _ _ _ _ _ _ more _ _ _ => exact ⟨rfl, more.keyed⟩

theorem keyed_hears {k : Keyring} {ic ic' : Interconnection} {m : Message} {p : ProtocolName}
    {r : StageResult} (hears : Interconnection.Hears k ic m p ic' r)
    (keyed : ic.subscriptions.Keyed) : ic'.token = ic.token ∧ ic'.subscriptions.Keyed := by
  cases hears with
  | unreadable => exact ⟨rfl, keyed⟩
  | unmatched _ _ _ _ drained | brokenOff _ _ _ _ _ drained _ | matched _ _ _ _ _ drained _ _ =>
    exact ⟨rfl, drained.keyed⟩

theorem lawful_hears {k : Keyring} {ic ic' : Interconnection} {m : Message} {p : ProtocolName}
    {r : StageResult} (hears : Interconnection.Hears k ic m p ic' r) (hop : Hop)
    (next : sent r = some hop) : Lawful k hop := by
  cases hears with
  | unreadable | unmatched | brokenOff => cases next
  | matched key _ _ l about _ _ receivers =>
    cases next
    exact .answering m p l 1 about.1 receivers (Or.inl rfl)

theorem split_idle {t : Traffic} (orderly : t.Orderly) {before after : List Hop} {hop : Hop}
    (split : t.hops = before ++ hop :: after) : t.phase ≠ .created := by
  intro created
  have empty := (orderly.idle created).1
  rw [split] at empty
  simp at empty

theorem Orderly.hop {t : Traffic} (orderly : t.Orderly) {before after : List Hop} {taken : Hop}
    (split : t.hops = before ++ taken :: after) {ic : Interconnection} {out : Option Hop}
    (stage : ic.token = t.interconnection.token ∧ ic.subscriptions.Keyed)
    (next : ∀ hop, out = some hop → Lawful t.keys hop) :
    Orderly { t with interconnection := ic, hops := t.onward (before ++ after) out } where
  lawful := lawful_onward orderly split next
  token := stage.1.trans orderly.token
  keyed := stage.2
  sequenced := orderly.sequenced
  idle created := absurd created (split_idle (t := t) orderly split)

theorem Orderly.accept {t : Traffic} (orderly : t.Orderly) {a : Acceptance}
    (running : t.phase = .running) (nonzero : a.sequence ≠ 0) (q : Sequencer) :
    Orderly { t.accepting a with sequencer := q } := by
  refine ⟨orderly.lawful, orderly.token, orderly.keyed, fun p r member => ?_,
    fun created => absurd (running.symm.trans created) (by simp)⟩
  rcases asked_accepting (t := t) (a := a) member with old | ⟨_, rfl⟩
  · exact orderly.sequenced p r old
  · simpa [Request.isSequenced, Acceptance.sealed] using nonzero

theorem Orderly.enter {t : Traffic} (orderly : t.Orderly) {p : ProtocolName} {r : Request}
    {rest : List Request} (queue : t.asked p = r :: rest) :
    Orderly { t with
      asked := Function.update t.asked p rest
      hops := t.onward t.hops (some ⟨.manager, .input, t.keys.asking r p 0⟩) } := by
  have asked : ∀ q, ∀ r' ∈ Function.update t.asked p rest q, r' ∈ t.asked q := by
    intro q r' member
    rw [Function.update_apply] at member
    split at member
    · rename_i same
      rw [same, queue]
      exact List.mem_cons_of_mem r member
    · exact member
  refine ⟨fun hop member => ?_, orderly.token, orderly.keyed,
    fun q r' member => orderly.sequenced q r' (asked q r' member), fun created => ?_⟩
  · rcases mem_onward (show hop ∈ t.onward t.hops (some _) from member) with old | new
    · exact orderly.lawful hop old
    · cases new
      exact .entering r p (orderly.sequenced p r (queue ▸ List.mem_cons_self))
  · have empty := ((orderly.idle created).2 p).2
    rw [queue] at empty
    cases empty

theorem Orderly.arrive {t : Traffic} (orderly : t.Orderly) (p : ProtocolName) (m : Message) :
    Orderly { t with
      hops := t.onward t.hops (some ⟨.manager, .interconnection, t.keys.wrap m p⟩) } := by
  refine ⟨fun hop member => ?_, orderly.token, orderly.keyed, orderly.sequenced, fun created => ?_⟩
  · rcases mem_onward (show hop ∈ t.onward t.hops (some _) from member) with old | new
    · exact orderly.lawful hop old
    · cases new
      exact .arriving m p
  · obtain ⟨still, empty⟩ := orderly.idle created
    refine ⟨?_, empty⟩
    change t.onward t.hops (some _) = []
    rw [onward_created (t := t) created, still]

theorem Orderly.resolve {t : Traffic} (orderly : t.Orderly) {before after : List Hop} {taken : Hop}
    (split : t.hops = before ++ taken :: after) (m : Message)
    (xs : List (ProtocolName × Sequence)) :
    Orderly (xs.foldl (·.resolve m) { t with hops := before ++ after }) := by
  have beside := beside_resolveAll { t with hops := before ++ after } m xs
  constructor
  case lawful =>
    rw [beside.hops, beside.keys]
    exact fun hop member => orderly.lawful hop (split ▸ mem_left member)
  case token =>
    rw [beside.interconnection, beside.keys]
    exact orderly.token
  case keyed =>
    rw [beside.interconnection]
    exact orderly.keyed
  case sequenced =>
    rw [beside.asked]
    exact orderly.sequenced
  case idle =>
    rw [beside.phase]
    exact fun created => absurd created (split_idle (t := t) orderly split)

theorem Orderly.step {t t' : Traffic} {notes : List Note} (orderly : t.Orderly)
    (step : Step t notes t') : t'.Orderly := by
  -- Most steps do not touch the stage.
  have stage : t.interconnection.token = t.interconnection.token ∧
      t.interconnection.subscriptions.Keyed := ⟨rfl, orderly.keyed⟩
  cases step with
  | quiet => exact orderly
  | accepted a running number nonzero new => exact orderly.accept running nonzero _
  | entered p r rest queue => exact orderly.enter queue
  | arrived p m => exact orderly.arrive p m
  | admitted before after r p sequenced split =>
    exact orderly.hop split stage fun hop next => by
      cases next
      exact .admitted r p sequenced
  | taken before after r p ic out split takes =>
    exact orderly.hop split (keyed_takes takes orderly.keyed) (lawful_takes takes)
  | delivered before after r p target out split next =>
    exact orderly.hop split stage fun hop sent => by
      rcases next with rfl | ⟨m, q, rfl⟩
      · cases sent
      · cases sent
        exact .arriving m q
  | heard before after m p ic result split hears =>
    exact orderly.hop split (keyed_hears hears orderly.keyed) (lawful_hears hears)
  | released before after m p l hops answer receivers early split =>
    exact orderly.hop split stage fun hop next => by
      cases next
      exact .leaving m p l hops answer receivers early
  | resolved before after m p l hops split answer => exact orderly.resolve split m (receipts l)
  | drawn r running | abandoned k waiting =>
    exact ⟨orderly.lawful, orderly.token, orderly.keyed, orderly.sequenced, orderly.idle⟩
  -- These leave a gateway that has been started.
  | refused p r running =>
    exact ⟨orderly.lawful, orderly.token, orderly.keyed, orderly.sequenced,
      fun created => absurd (running.symm.trans created) (by simp)⟩
  | started | stopped | gone =>
    exact ⟨orderly.lawful, orderly.token, orderly.keyed, orderly.sequenced,
      fun created => by cases created⟩

end Traffic

/-! Histories -/

namespace History

theorem orderly_new (config : ManagerConfig) (cache : ReplyCache) :
    (Gateway.new config cache).traffic.Orderly where
  lawful _ member := nomatch member
  token := rfl
  keyed := List.nodup_nil
  sequenced _ _ member := nomatch member
  idle _ := ⟨rfl, fun _ => ⟨rfl, rfl⟩⟩

theorem run_append (config : ManagerConfig) (cache : ReplyCache) (moves : List Move) (m : Move) :
    run config cache (moves ++ [m]) = (run config cache moves).next m := by
  unfold run
  rw [List.foldl_append]
  rfl

/-- A property of traffic and log that holds at the start and is preserved by every step holds of
every history. -/
theorem holds {P : Traffic → List Note → Prop} {config : ManagerConfig} {cache : ReplyCache}
    (start : P (Gateway.new config cache).traffic [])
    (kept : ∀ t log notes t', t.Orderly → P t log → t.Step notes t' → P t' (log ++ notes))
    (moves : List Move) :
    (run config cache moves).gateway.traffic.Orderly ∧
      P (run config cache moves).gateway.traffic (run config cache moves).log := by
  induction moves using List.reverseRecOn with
  | nil => exact ⟨orderly_new config cache, start⟩
  | append_singleton moves m ih =>
    obtain ⟨orderly, before⟩ := ih
    have step := (run config cache moves).gateway.step_move orderly m
    rw [run_append]
    exact ⟨orderly.step step, kept _ _ _ _ orderly before step⟩

end History

end ProtocolGateway
