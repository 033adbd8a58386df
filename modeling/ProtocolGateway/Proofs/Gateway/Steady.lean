import Mathlib
import ProtocolGateway.Gateway.Service
import ProtocolGateway.Proofs.Gateway.Rest

/-!
What nothing but a call of its life changes about a gateway: its phase, the plugins it has and which
of their sinks are closed. Until such a call clears them, the pending maps hold every request that
waits, and only a running gateway puts a request into one. An exchange ends once.
-/

namespace ProtocolGateway

/-- Every exchange that waits is in the pending map of a plugin. -/
def Traffic.Covered (t : Traffic) : Prop :=
  ∀ k : Ticket, t.exchanges[k]? = some .waiting → ∃ p s, Table.at? (t.pending p) s = some k

namespace Traffic

variable {t t' : Traffic} {p : ProtocolName} {s : Sequence}

theorem Covered.of_same (covered : t.Covered) (pending : t'.pending = t.pending)
    (exchanges : t'.exchanges = t.exchanges) : t'.Covered := by
  unfold Covered
  rw [pending, exchanges]
  exact covered

theorem Covered.released (covered : t.Covered)
    (pending : t'.pending = Function.update t.pending p (Table.erase (t.pending p) s))
    (spared : ∀ k : Ticket, t'.exchanges[k]? = some .waiting →
      t.exchanges[k]? = some .waiting ∧ Table.at? (t.pending p) s ≠ some k) : t'.Covered := by
  intro k waiting
  obtain ⟨waited, other⟩ := spared k waiting
  obtain ⟨q, u, found⟩ := covered k waited
  refine ⟨q, u, ?_⟩
  rw [pending, at?_refused]
  split
  · rename_i same
    obtain ⟨rfl, rfl⟩ := same
    exact absurd found other
  · exact found

theorem Covered.awaiting (covered : t.Covered)
    (pending : t'.pending =
      Function.update t.pending p (Table.put s t.exchanges.length (t.pending p)))
    (exchanges : t'.exchanges =
      superseded (t.exchanges ++ [.waiting]) (Table.at? (t.pending p) s)) : t'.Covered := by
  have placed (q : ProtocolName) (u : Sequence) : Table.at? (t'.pending q) u =
      if q = p ∧ s = u then some t.exchanges.length else Table.at? (t.pending q) u := by
    rw [pending, Function.update_apply]
    by_cases same : q = p
    · rw [if_pos same, Table.at?_put, same]
      simp
    · rw [if_neg same, if_neg fun both => same both.1]
  intro k waiting
  have bound := (List.getElem?_eq_some_iff.mp waiting).1
  rw [exchanges, length_superseded, List.length_append, List.length_singleton] at bound
  rcases Nat.lt_succ_iff_lt_or_eq.mp bound with early | rfl
  · rw [exchanges, superseded_old early] at waiting
    split at waiting
    · cases waiting
    · rename_i other
      obtain ⟨q, u, found⟩ := covered k waiting
      refine ⟨q, u, (placed q u).trans ?_⟩
      split
      · rename_i same
        obtain ⟨rfl, rfl⟩ := same
        exact absurd ⟨found, waiting⟩ other
      · exact found
  · exact ⟨p, s, (placed p s).trans (if_pos ⟨rfl, rfl⟩)⟩

end Traffic

def EndsStay (before after : List Exchange) : Prop :=
  ∀ (k : Ticket) (x : Exchange), before[k]? = some x → x ≠ .waiting → after[k]? = some x

theorem EndsStay.refl (exchanges : List Exchange) : EndsStay exchanges exchanges :=
  fun _ _ found _ => found

theorem EndsStay.trans {before between after : List Exchange} (first : EndsStay before between)
    (second : EndsStay between after) : EndsStay before after :=
  fun k x found ended => second k x (first k x found ended) ended

theorem EndsStay.concluded (exchanges : List Exchange) (t : Ticket) (r : Resolution) :
    EndsStay exchanges (Traffic.concluded exchanges t r) := by
  intro k x found ended
  rw [Traffic.concluded_at, if_neg, found]
  rintro ⟨rfl, waiting⟩
  exact ended (Option.some.inj (found.symm.trans waiting))

theorem EndsStay.superseded (exchanges : List Exchange) (old : Option Ticket) :
    EndsStay exchanges (Traffic.superseded exchanges old) := by
  cases old with
  | none => exact .refl exchanges
  | some k => exact .concluded exchanges k .dropped

theorem EndsStay.begun (exchanges : List Exchange) : EndsStay exchanges (exchanges ++ [.waiting]) :=
  fun _ _ found _ => by
    rw [List.getElem?_append_left (List.getElem?_eq_some_iff.mp found).1, found]

namespace Gateway

open Relation (ReflTransGen)

def door (g : Gateway) (p : ProtocolName) : Option Bool :=
  (g.entry? p).map fun e => e.sink.closed

structure Steady (g g' : Gateway) : Prop where
  phase : g'.phase = g.phase
  names : Table.keys g'.plugins = Table.keys g.plugins
  doors : ∀ p, g'.door p = g.door p
  silent : g.phase ≠ .running → ∀ p, g.pendingOf p = [] → g'.pendingOf p = []
  covered : g.traffic.Covered → g'.traffic.Covered
  ended : EndsStay g.exchanges g'.exchanges

variable {g g' g'' : Gateway}

theorem Steady.refl (g : Gateway) : Steady g g :=
  ⟨rfl, rfl, fun _ => rfl, fun _ _ empty => empty, id, .refl _⟩

theorem Steady.trans (first : Steady g g') (second : Steady g' g'') : Steady g g'' where
  phase := second.phase.trans first.phase
  names := second.names.trans first.names
  doors p := (second.doors p).trans (first.doors p)
  silent idle p empty := second.silent (first.phase.symm ▸ idle) p (first.silent idle p empty)
  covered covered := second.covered (first.covered covered)
  ended := first.ended.trans second.ended

theorem Steady.beside (phase : g'.phase = g.phase) (plugins : g'.plugins = g.plugins)
    (exchanges : g'.exchanges = g.exchanges) : Steady g g' := by
  have entry : g'.entry? = g.entry? := by
    unfold entry?
    rw [plugins]
  have pending : g'.pendingOf = g.pendingOf := by
    unfold pendingOf
    rw [entry]
  refine ⟨phase, congrArg Table.keys plugins, fun p => ?_, fun _ p empty => ?_, fun covered => ?_,
    exchanges ▸ .refl g.exchanges⟩
  · unfold door
    rw [entry]
  · rwa [pending]
  · exact covered.of_same pending exchanges

theorem door_updateEntry (p : ProtocolName) {f : PluginEntry → PluginEntry}
    (door : ∀ e, g.entry? p = some e → (f e).sink.closed = e.sink.closed) (q : ProtocolName) :
    (g.updateEntry p f).door q = g.door q := by
  unfold Gateway.door
  rw [entry?_updateEntry]
  split
  · rename_i same
    subst same
    cases found : g.entry? p with
    | none => rfl
    | some e => exact congrArg some (door e found)
  · rfl

theorem names_updateEntry (p : ProtocolName) (f : PluginEntry → PluginEntry) :
    Table.keys (g.updateEntry p f).plugins = Table.keys g.plugins :=
  congrArg Course.names (g.course_updateEntry p f)

theorem steady_updateEntry (p : ProtocolName) {f : PluginEntry → PluginEntry}
    (pending : ∀ e, (f e).pending = e.pending)
    (door : ∀ e, g.entry? p = some e → (f e).sink.closed = e.sink.closed) :
    Steady g (g.updateEntry p f) := by
  have same : (g.updateEntry p f).pendingOf = g.pendingOf := by
    rw [pendingOf_updateEntry]
    simp only [pending]
    exact g.update_pendingOf p
  refine ⟨rfl, names_updateEntry p f, door_updateEntry p door, fun _ q empty => ?_,
    fun covered => ?_, .refl _⟩
  · rwa [same]
  · exact covered.of_same same rfl

theorem steady_setPlugin (p : ProtocolName) (plugin : Plugin) : Steady g (g.setPlugin p plugin) :=
  steady_updateEntry p (fun _ => rfl) fun _ _ => rfl

theorem steady_enqueue (t : Task) : Steady g (g.enqueue t) := .beside rfl rfl rfl

theorem steady_enqueueFirst (t : Task) : Steady g (g.enqueueFirst t) := .beside rfl rfl rfl

theorem steady_forward (hop : Hop) : Steady g (g.forward hop) := by
  unfold forward
  split
  · exact steady_enqueue _
  · exact .beside rfl rfl rfl

/-! Sinks -/

theorem steady_send (p : ProtocolName) (parcel : Parcel Outbound Inbound) :
    Steady g (g.send p parcel).1 := by
  rcases g.send_cases p parcel with ⟨cause, refused⟩ | ⟨e, sink, found, offered, sent⟩
  · rw [refused]
    exact .refl g
  · have put : Steady g (g.updateEntry p fun e => { e with sink := sink }) :=
      steady_updateEntry p (fun _ => rfl) fun e' found' => by
        cases found.symm.trans found'
        exact (Sink.offer_flags offered).1
    rcases sent with ⟨_, sent⟩ | sent
    · rw [sent]
      exact put
    · rw [sent]
      exact put.trans (steady_enqueue _)

theorem steady_reply (p : ProtocolName) (m : Message) : Steady g (g.reply p m).1 := by
  rw [reply_eq]
  exact steady_send p _

theorem steady_notify (p : ProtocolName) (authority path : String) (content : Octets) :
    Steady g (g.notify p authority path content).1 := by
  unfold notify
  split
  · dsimp only
    split
    · exact (steady_setPlugin p _).trans (steady_reply p _)
    · exact steady_setPlugin p _
  · exact .refl g

/-! Exchanges -/

theorem door_conclude (k : Ticket) (x : Resolution) (p : ProtocolName) :
    (g.conclude k x).1.door p = g.door p := by
  unfold door entry?
  rw [conclude_plugins]

theorem door_release (p : ProtocolName) (s : Sequence) (q : ProtocolName) :
    (g.release p s).door q = g.door q := by
  refine door_updateEntry p ?_ q
  exact fun _ _ => rfl

theorem names_resolve (p : ProtocolName) (s : Sequence) (m : Message) :
    Table.keys (g.resolve p s m).1.plugins = Table.keys g.plugins :=
  congrArg Course.names (g.course_resolve p s m)

theorem door_resolve (p : ProtocolName) (s : Sequence) (m : Message) (q : ProtocolName) :
    (g.resolve p s m).1.door q = g.door q := by
  unfold resolve
  split
  · rfl
  · rename_i k _
    have closed : ((g.release p s).conclude k (resolutionOf m s)).1.door q = g.door q :=
      (door_conclude k _ q).trans (door_release p s q)
    dsimp only
    split
    · split <;> exact closed
    · exact closed

/-- Nobody waits, or the one who waits is taken out of the pending map and its exchange ends. -/
theorem resolve_cases (p : ProtocolName) (s : Sequence) (m : Message) :
    ((g.resolve p s m).1.pendingOf = g.pendingOf ∧ (g.resolve p s m).1.exchanges = g.exchanges) ∨
    ∃ t, Table.at? (g.pendingOf p) s = some t ∧
      (g.resolve p s m).1.pendingOf =
        Function.update g.pendingOf p (Table.erase (g.pendingOf p) s) ∧
      (g.resolve p s m).1.exchanges = Traffic.concluded g.exchanges t (resolutionOf m s) := by
  have traffic := g.traffic_resolve p s m
  have pending := congrArg Traffic.pending traffic
  have exchanges := congrArg Traffic.exchanges traffic
  unfold Traffic.resolve at pending exchanges
  cases waits : Table.at? (g.pendingOf p) s with
  | none =>
    have unregistered : Table.at? (g.traffic.pending p) s = none := waits
    rw [unregistered] at pending exchanges
    exact Or.inl ⟨pending, exchanges⟩
  | some t =>
    have registered : Table.at? (g.traffic.pending p) s = some t := waits
    rw [registered] at pending exchanges
    exact Or.inr ⟨t, rfl, pending, exchanges⟩

theorem empty_erased {p q : ProtocolName} (s : Sequence) (empty : g.pendingOf q = []) :
    Function.update g.pendingOf p (Table.erase (g.pendingOf p) s) q = [] := by
  rw [Function.update_apply]
  split
  · rename_i same
    rw [← same, empty]
    rfl
  · exact empty

theorem steady_resolve (p : ProtocolName) (s : Sequence) (m : Message) :
    Steady g (g.resolve p s m).1 := by
  refine ⟨congrArg Course.phase (g.course_resolve p s m), names_resolve p s m, door_resolve p s m,
    fun _ q empty => ?_, fun covered => ?_, ?_⟩
  · rcases resolve_cases (g := g) p s m with ⟨pending, _⟩ | ⟨t, _, pending, _⟩
    · rwa [pending]
    · rw [pending]
      exact empty_erased s empty
  · rcases resolve_cases (g := g) p s m with ⟨pending, exchanges⟩ | ⟨t, waits, pending, exchanges⟩
    · exact covered.of_same pending exchanges
    · refine covered.released pending fun k waiting => ?_
      change (g.resolve p s m).1.exchanges[k]? = _ at waiting
      rw [exchanges, Traffic.concluded_at] at waiting
      split at waiting
      · cases waiting
      · rename_i other
        -- The one that was taken out is not the one that still waits.
        refine ⟨waiting, fun same => ?_⟩
        cases waits.symm.trans same
        exact other ⟨rfl, waiting⟩
  · rcases resolve_cases (g := g) p s m with ⟨_, exchanges⟩ | ⟨t, _, _, exchanges⟩
    · rw [exchanges]
      exact .refl g.exchanges
    · rw [exchanges]
      exact .concluded g.exchanges t _

theorem steady_acts {Q : ProtocolName → Parcel Outbound Inbound → Prop}
    (acts : ReflTransGen (Act Q) g g') : Steady g g' := by
  induction acts with
  | refl => exact .refl g
  | tail _ act ih =>
    cases act with
    | put good => exact ih.trans (steady_send _ _)
    | resolve p s m => exact ih.trans (steady_resolve p s m)

theorem steady_abandon (t : Ticket) : Steady g (g.abandon t) := by
  unfold abandon
  split
  · rename_i was
    refine ⟨rfl, rfl, fun _ => rfl, fun _ _ empty => empty, fun covered k waiting => ?_,
      fun k x found ended => ?_⟩
    · obtain ⟨bound, _⟩ := List.getElem?_eq_some_iff.mp was
      change (g.exchanges.set t .abandoned)[k]? = some .waiting at waiting
      by_cases same : t = k
      · rw [same, List.getElem?_set_self (same ▸ bound)] at waiting
        cases waiting
      · rw [List.getElem?_set_ne same] at waiting
        exact covered k waiting
    · change (g.exchanges.set t .abandoned)[k]? = some x
      rw [List.getElem?_set_ne, found]
      rintro rfl
      exact ended (Option.some.inj (found.symm.trans was))
  · exact .refl g

/-! Submitting -/

theorem fixed_await (p : ProtocolName) (s : Sequence) :
    Table.keys (g.await p s).2.plugins = Table.keys g.plugins ∧
      ∀ q, Gateway.door (g.await p s).2 q = g.door q := by
  unfold await
  dsimp only
  generalize waiting : (Option.bind _ _ : Option Ticket) = old
  have concluded : ∀ g' : Gateway, g'.plugins = g.plugins →
      Table.keys (g'.updateEntry p fun e =>
        { e with pending := Table.put s g.exchanges.length e.pending }).plugins =
        Table.keys g.plugins ∧
      ∀ q, (g'.updateEntry p fun e =>
        { e with pending := Table.put s g.exchanges.length e.pending }).door q = g.door q := by
    intro g' same
    refine ⟨(names_updateEntry p _).trans (congrArg Table.keys same), fun q => ?_⟩
    have kept : g'.door q = g.door q := by
      unfold door entry?
      rw [same]
    rw [← kept]
    refine door_updateEntry p ?_ q
    exact fun _ _ => rfl
  cases old with
  | none => exact concluded _ rfl
  | some k => exact concluded _ (conclude_plugins _ k .dropped)

theorem fixed_submit (p : ProtocolName) (r : Request) :
    Table.keys (g.submit p r).1.plugins = Table.keys g.plugins ∧
      ∀ q, (g.submit p r).1.door q = g.door q := by
  unfold submit
  split
  · exact ⟨rfl, fun _ => rfl⟩
  · dsimp only
    split
    · exact ⟨rfl, fun _ => rfl⟩
    · rename_i sealed _
      have known := fixed_await
        (g := { g with sequencer := (g.sequencer.next r.headers.operation).2 }) p
        (g.sequencer.next r.headers.operation).1
      generalize (({ g with sequencer := (g.sequencer.next r.headers.operation).2 } :
        Gateway).await p (g.sequencer.next r.headers.operation).1) = begun at known ⊢
      obtain ⟨ticket, g₁⟩ := begun
      have sent : Steady g₁ (g₁.send p (.toA (.request sealed))).1 := steady_send p _
      dsimp only
      generalize g₁.send p (.toA (.request sealed)) = result at sent ⊢
      obtain ⟨g₂, outcome⟩ := result
      have names := sent.names.trans known.1
      have doors q := (sent.doors q).trans (known.2 q)
      cases outcome with
      | ok _ => exact ⟨names, doors⟩
      | error cause =>
        refine ⟨?_, fun q => ?_⟩
        · dsimp only
          rw [conclude_plugins]
          exact (names_updateEntry p _).trans names
        · exact (door_conclude _ _ q).trans ((door_release p _ q).trans (doors q))

theorem Submits.covered {t t' : Traffic} {p : ProtocolName} {r : Request} {notes : List Note}
    {outcome : Except LinkError (Sequence × Ticket)} (submits : Submits t p r t' notes outcome)
    (covered : t.Covered) : t'.Covered := by
  cases submits with
  | turnedDown | drawn => exact covered
  | refused e running =>
    refine covered.released rfl fun k waiting => ?_
    change (Traffic.concluded (Traffic.superseded _ _) _ _)[k]? = _ at waiting
    have bound := (List.getElem?_eq_some_iff.mp waiting).1
    rw [Traffic.length_concluded, Traffic.length_superseded, List.length_append,
      List.length_singleton] at bound
    rcases Nat.lt_succ_iff_lt_or_eq.mp bound with early | rfl
    · rw [Traffic.refused_old early] at waiting
      split at waiting
      · cases waiting
      · rename_i other
        exact ⟨waiting, fun same => other ⟨same, waiting⟩⟩
    · rw [Traffic.concluded_at] at waiting
      split at waiting
      · cases waiting
      · rename_i other
        exact absurd ⟨rfl, waiting⟩ other
  | accepted a mine running number nonzero new =>
    refine covered.awaiting (p := a.protocol) (s := a.sequence) ?_ rfl
    rw [← new]
    rfl

theorem Submits.silent {t t' : Traffic} {p : ProtocolName} {r : Request} {notes : List Note}
    {outcome : Except LinkError (Sequence × Ticket)} (submits : Submits t p r t' notes outcome)
    (idle : t.phase ≠ .running) : t' = t := by
  cases submits with
  | turnedDown => rfl
  | drawn e running | refused e running | accepted a mine running => exact absurd running idle

theorem Submits.phase {t t' : Traffic} {p : ProtocolName} {r : Request} {notes : List Note}
    {outcome : Except LinkError (Sequence × Ticket)} (submits : Submits t p r t' notes outcome) :
    t'.phase = t.phase := by
  cases submits <;> rfl

theorem Submits.ended {t t' : Traffic} {p : ProtocolName} {r : Request} {notes : List Note}
    {outcome : Except LinkError (Sequence × Ticket)} (submits : Submits t p r t' notes outcome) :
    EndsStay t.exchanges t'.exchanges := by
  have begun (old : Option Ticket) :
      EndsStay t.exchanges (Traffic.superseded (t.exchanges ++ [.waiting]) old) :=
    (EndsStay.begun t.exchanges).trans (.superseded _ old)
  cases submits with
  | turnedDown | drawn => exact .refl t.exchanges
  | refused e running => exact (begun _).trans (.concluded _ _ _)
  | accepted a mine running number nonzero new => exact begun _

theorem steady_submit (p : ProtocolName) (r : Request) : Steady g (g.submit p r).1 := by
  obtain ⟨names, doors⟩ := fixed_submit (g := g) p r
  have submits := g.submit_submits p r
  refine ⟨submits.phase, names, doors, fun idle q empty => ?_, submits.covered, submits.ended⟩
  exact (congrFun (congrArg Traffic.pending (submits.silent idle)) q).trans empty

/-! Sending in two pieces -/

theorem steady_await (running : g.phase = .running) {p : ProtocolName} {e : PluginEntry}
    (registered : g.entry? p = some e) (s : Sequence) : Steady g (g.await p s).2 := by
  obtain ⟨names, doors⟩ := fixed_await (g := g) p s
  have traffic := g.traffic_await g.sequencer p s
  rw [awaited_registered registered] at traffic
  have exchanges := congrArg Traffic.exchanges traffic
  refine ⟨congrArg Traffic.phase traffic, names, doors, fun still => absurd running still,
    fun covered => ?_, ?_⟩
  · exact covered.awaiting (congrArg Traffic.pending traffic) exchanges
  · rw [show (g.await p s).2.exchanges = _ from exchanges]
    exact (EndsStay.begun g.exchanges).trans (.superseded _ _)

theorem running_of_admission (admitted : g.admission = .ok ()) : g.phase = .running := by
  unfold admission at admitted
  split at admitted
  · assumption
  · cases admitted
  · cases admitted
  · cases admitted

theorem steady_beginSend {p : ProtocolName} (registered : (g.entry? p).isSome) (r : Request) :
    Steady g (g.beginSend p r).1 := by
  obtain ⟨e, registered⟩ := Option.isSome_iff_exists.mp registered
  have drawn : Steady g { g with sequencer := (g.sequencer.next r.headers.operation).2 } :=
    .beside rfl rfl rfl
  unfold beginSend
  split
  · exact .refl g
  · rename_i admitted
    dsimp only
    split
    · exact drawn
    · refine drawn.trans (steady_await (e := e) ?_ ?_ _)
      · exact running_of_admission admitted
      · exact registered

theorem traffic_giveUp (g : Gateway) (x : Sending) : (g.giveUp x).traffic = { g.traffic with
    pending := Function.update g.pendingOf x.protocol
      (Table.erase (g.pendingOf x.protocol) x.sequence)
    exchanges := Traffic.concluded
      (Traffic.superseded g.exchanges (Table.at? (g.pendingOf x.protocol) x.sequence))
      x.ticket .dropped } := by
  have waits := g.pending?_eq x.protocol x.sequence
  unfold pending? at waits
  unfold giveUp
  rw [waits]
  cases Table.at? (g.pendingOf x.protocol) x.sequence with
  | none =>
    dsimp only
    rw [traffic_conclude, traffic_release]
    rfl
  | some k =>
    dsimp only
    rw [traffic_conclude, traffic_release]
    rw [conclude_eq]
    rfl

theorem steady_giveUp (x : Sending) : Steady g (g.giveUp x) := by
  have traffic := g.traffic_giveUp x
  have pending : (g.giveUp x).pendingOf = _ := congrArg Traffic.pending traffic
  have exchanges : (g.giveUp x).exchanges = _ := congrArg Traffic.exchanges traffic
  refine ⟨congrArg Traffic.phase traffic, ?_, fun q => ?_, fun _ q empty => ?_,
    fun covered => ?_, ?_⟩
  · unfold giveUp
    rw [conclude_plugins]
    refine (names_updateEntry x.protocol _).trans ?_
    split
    · rw [conclude_plugins]
    · rfl
  · unfold giveUp
    rw [door_conclude, door_release]
    split
    · exact door_conclude _ _ q
    · rfl
  · rw [pending]
    exact empty_erased x.sequence empty
  · refine covered.released pending fun k waiting => ?_
    change (g.giveUp x).exchanges[k]? = _ at waiting
    rw [exchanges, Traffic.concluded_at] at waiting
    split at waiting
    · cases waiting
    · rw [Traffic.superseded_at] at waiting
      split at waiting
      · cases waiting
      · rename_i other
        exact ⟨waiting, fun same => other ⟨same, waiting⟩⟩
  · rw [exchanges]
    exact (EndsStay.superseded _ _).trans (.concluded _ _ _)

theorem steady_endSend (x : Sending) : Steady g (g.endSend x).1 := by
  have sent : Steady g (g.send x.protocol (.toA (.request x.request))).1 := steady_send _ _
  unfold endSend
  split <;> rename_i same <;> rw [same] at sent
  · exact sent
  · exact sent.trans (steady_giveUp x)

/-! The ends of the pipeline -/

theorem steady_receiveAt (hop : Hop) (e : Envelope) : Steady g (g.receiveAt hop e).1 := by
  rcases g.receiveAt_cases hop e with ⟨ic, stage⟩ | acts
  · rw [stage]
    exact .beside rfl rfl rfl
  · exact steady_acts acts

theorem steady_follow (r : StageResult) : Steady g (g.follow r) := by
  match r with
  | .ok none | .error .clockOverflow => exact .refl g
  | .ok (some hop) => exact steady_forward hop
  | .error (.fault _) => exact .beside rfl rfl rfl

theorem steady_dispatch (hop : Hop) : Steady g (g.dispatch hop) := by
  unfold dispatch
  split
  · exact .beside rfl rfl rfl
  · rename_i e _
    have counted : Steady g g.countForwarded := .beside rfl rfl rfl
    exact (counted.trans (steady_receiveAt hop e)).trans (steady_follow _)

/-! Tasks and events -/

theorem steady_handOver (p : ProtocolName) (parcel : Parcel Outbound Inbound) :
    Steady g (g.handOver p parcel) := by
  have handed := g.handOver_cases p parcel
  generalize g.handOver p parcel = g' at handed ⊢
  cases handed with
  | lost | unheard => exact .refl g
  | asks | answers => exact steady_forward _
  | handled | pushed => exact steady_setPlugin p _
  | responds => exact (steady_setPlugin p _).trans (steady_enqueue _)

theorem steady_consume (p : ProtocolName) : Steady g (g.consume p) := by
  rcases g.consume_cases p with idle | ⟨e, x, sink, found, next, given⟩
  · rw [idle]
    exact .refl g
  · have taken : Steady g (g.updateEntry p fun e => { e with sink := sink }) :=
      steady_updateEntry p (fun _ => rfl) fun e' found' => by
        cases found.symm.trans found'
        exact (Sink.next_flags next).1
    have handed := taken.trans (steady_handOver p x)
    rcases given with last | more
    · rw [last]
      exact handed
    · rw [more]
      exact handed.trans (steady_enqueueFirst _)

theorem steady_respond (p : ProtocolName) (messages : List Message) :
    Steady g (g.respond p messages) := by
  rcases g.respond_cases p messages with idle | ⟨m, rest, _, given⟩
  · rw [idle]
    exact .refl g
  · have sent : Steady g (g.send p (.toA (.answer m))).1 := steady_send p _
    rcases given with last | more
    · rw [last]
      exact sent
    · rw [more]
      exact sent.trans (steady_enqueueFirst _)

theorem steady_runTask (i : Nat) : Steady g (g.runTask i) := by
  unfold runTask
  split
  · exact .refl g
  · rename_i t _
    have left : Steady g { g with tasks := g.tasks.eraseIdx i } := .beside rfl rfl rfl
    cases t with
    | consume p => exact left.trans (steady_consume p)
    | forward hop => exact left.trans (steady_dispatch hop)
    | respond p messages => exact left.trans (steady_respond p messages)

theorem steady_step (e : Event) : Steady g (g.step e) := by
  cases e with
  | submit p r => exact steady_submit p r
  | reply p m => exact steady_reply p m
  | notify p authority path content => exact steady_notify p authority path content
  | abandon t => exact steady_abandon t
  | run i => exact steady_runTask i
  | pass ms => exact .beside rfl rfl rfl

/-- A sink that is closed hands nothing over, so no side of its plugin is called. -/
theorem handled_shut (shut : ∀ p, g.door p ≠ some false) (e : Event) : g.handled e = [] := by
  unfold handled
  split
  · split
    · rename_i p _
      have nothing : (g.entry? p).bind (·.sink.next?) = none := by
        cases found : g.entry? p with
        | none => rfl
        | some entry =>
          rw [Option.bind_some]
          cases next : entry.sink.next? with
          | none => rfl
          | some taken =>
            have closed := shut p
            unfold door at closed
            rw [found, Option.map_some, (Sink.eq_of_next? next).1] at closed
            exact absurd rfl closed
      rw [nothing]
    · rfl
  · rfl

end Gateway

end ProtocolGateway
