import Mathlib
import ProtocolGateway.Proofs.Gateway.Errand

/-!
How a request gets to its target. In a gateway where nothing else is under way there is only one thing
that can happen next, up to the point where the target speaks.
-/

namespace ProtocolGateway

namespace Gateway

variable {g g' g'' : Gateway}

/-! One thing after the other -/

/-- The second gateway is all that comes of the first. -/
structure Leads (g g' : Gateway) : Prop where
  orderly : g.traffic.Orderly → g'.traffic.Orderly
  settles : ∀ P, g'.Settles P → g.Settles P

theorem Leads.trans (first : Leads g g') (second : Leads g' g'') : Leads g g'' where
  orderly before := second.orderly (first.orderly before)
  settles P settles := first.settles P (second.settles P settles)

theorem leads_enqueued (still : g.tasks = []) (t : Task) : Leads (g.enqueue t) (g.perform t) := by
  have alone : (g.enqueue t).tasks = [t] := by
    change g.tasks ++ [t] = [t]
    rw [still]
    rfl
  have run : (g.enqueue t).runTask 0 = g.perform t := by
    have left : { g.enqueue t with tasks := [] } = g := by
      rw [← still]
      rfl
    unfold runTask
    rw [alone]
    change Gateway.perform { g.enqueue t with tasks := [] } t = _
    rw [left]
  rw [← run]
  constructor
  · intro orderly
    exact orderly.step (step_move _ orderly (.event (.run 0)))
  · intro P settles
    refine .step (by rw [alone]; exact List.cons_ne_nil _ _) fun i bound => ?_
    rw [alone, List.length_singleton, Nat.lt_one_iff] at bound
    rw [bound]
    exact settles

theorem Settles.mono {P Q : Gateway → Prop} (settles : g.Settles P) (more : ∀ h, P h → Q h) :
    g.Settles Q := by
  induction settles with
  | rest still holds => exact .rest still (more _ holds)
  | step busy next ih => exact .step busy ih

theorem Settles.and {P Q : Gateway → Prop} (first : g.Settles P) (second : g.Settles Q) :
    g.Settles fun h => P h ∧ Q h := by
  induction first with
  | rest still holds =>
    cases second with
    | rest _ holds' => exact .rest still ⟨holds, holds'⟩
    | step busy _ => exact absurd still busy
  | step busy next ih =>
    cases second with
    | rest still _ => exact absurd still busy
    | step _ next' => exact .step busy fun i bound => ih i bound (next' i bound)

theorem Settles.exists {P : Gateway → Prop} (settles : g.Settles P) : ∃ h, P h := by
  induction settles with
  | rest _ holds => exact ⟨_, holds⟩
  | step busy _ ih => exact ih 0 (List.length_pos_iff.mpr busy)

/-! Nothing under way -/

structure Calm (g : Gateway) : Prop where
  ready : g.frame.Ready
  still : g.tasks = []
  empty : ∀ p e, g.entry? p = some e → e.sink.queue = []

theorem Calm.running (calm : g.Calm) : g.phase = .running := calm.ready.running

theorem Calm.empty_updateEntry (calm : g.Calm) {p : ProtocolName} {f : PluginEntry → PluginEntry}
    {q : ProtocolName} {e : PluginEntry} (found : Gateway.entry? (g.updateEntry p f) q = some e)
    (sink : ∀ e, (f e).sink = e.sink) : e.sink.queue = [] := by
  rw [entry?_updateEntry] at found
  split at found
  · obtain ⟨e', found', rfl⟩ := Option.map_eq_some_iff.mp found
    rw [sink]
    exact calm.empty q e' found'
  · exact calm.empty q e found

theorem Calm.forward (calm : g.Calm) (hop : Hop) : g.forward hop = g.enqueue (.forward hop) := by
  unfold Gateway.forward isRunning
  rw [calm.running]
  rfl

theorem leads_sent (calm : g.Calm) {p : ProtocolName} (present : (g.outlook p).isSome)
    (parcel : Parcel Outbound Inbound) :
    ∃ h, g.send p parcel = (h, .ok ()) ∧ Leads h (g.handOver p parcel) := by
  obtain ⟨o, look⟩ := Option.isSome_iff_exists.mp present
  obtain ⟨e, found, rfl⟩ := Option.map_eq_some_iff.mp look
  have listens : (!e.sink.closed && e.sink.isReady) = true := calm.ready.listens p _ look
  have queue : (e.sink.push parcel).queue = [parcel] := by
    change e.sink.queue ++ [parcel] = _
    rw [calm.empty p e found]
    rfl
  obtain ⟨put, placed⟩ : ∃ h, g.updateEntry p (fun e' => { e' with sink := e.sink.push parcel }) = h :=
    ⟨_, rfl⟩
  have still : put.tasks = [] := placed ▸ calm.still
  have entry : put.entry? p = some { e with sink := e.sink.push parcel } := by
    rw [← placed, entry?_updateEntry, if_pos rfl, found]
    rfl
  have next : (e.sink.push parcel).next? = some (parcel, e.sink) := by
    have same : { e.sink.push parcel with queue := [] } = e.sink := by
      rw [← calm.empty p e found]
      rfl
    have listens' : (!(e.sink.push parcel).closed && (e.sink.push parcel).isReady) = true := listens
    rw [next?_listens listens' queue, same]
  -- A value that is put into a sink and taken out again leaves the sink as it was.
  have back : put.updateEntry p (fun e' => { e' with sink := e.sink }) = g := by
    have plugins : Table.update (Table.update g.plugins p fun e' => { e' with sink := e.sink.push parcel })
        p (fun e' => { e' with sink := e.sink }) = g.plugins := by
      rw [Table.update_update]
      exact Table.update_eq_self calm.ready.names found rfl
    rw [← placed]
    unfold updateEntry
    dsimp only
    rw [plugins]
  have consumed : put.consume p = g.handOver p parcel := by
    unfold consume
    rw [entry]
    dsimp only [Option.bind_some]
    rw [next]
    dsimp only
    rw [back, calm.empty p e found]
    rfl
  refine ⟨put.enqueue (.consume p), ?_, ?_⟩
  · unfold send
    rw [found]
    dsimp only
    rw [offer_listens listens]
    dsimp only
    rw [placed, still]
    rfl
  · rw [← consumed]
    exact leads_enqueued still (.consume p)

/-! The way of a request -/

theorem Calm.counted (calm : g.Calm) : g.countForwarded.Calm := ⟨calm.ready, calm.still, calm.empty⟩

/-- A request that leaves the sink of its plugin gets to the interconnection stage. -/
theorem leads_asking (calm : g.Calm) (p : ProtocolName) {r : Request} (sequenced : r.isSequenced = true)
    {ic : Interconnection} {result : StageResult}
    (crossing : g.interconnection.onRequest g.instant (g.keys.asking r p 2) = (ic, result)) :
    Leads (g.handOver p (.toA (.request r)))
      (Gateway.follow { g.countForwarded.countForwarded with interconnection := ic } result) := by
  have accepted : g.handOver p (.toA (.request r)) =
      g.enqueue (.forward ⟨.manager, .input, g.keys.asking r p 0⟩) := by
    unfold handOver
    dsimp only
    rw [if_neg (by rw [calm.running]; decide)]
    exact calm.forward _
  have admitted : g.dispatch ⟨.manager, .input, g.keys.asking r p 0⟩ =
      g.countForwarded.enqueue (.forward ⟨.input, .interconnection, g.keys.asking r p 1⟩) := by
    rw [dispatch_received (.entering r p sequenced) (congrArg (Prod.mk g.countForwarded)
      (InputStage.receive_asking g.keys r p 1 sequenced))]
    exact calm.counted.forward _
  have taken : g.countForwarded.dispatch ⟨.input, .interconnection, g.keys.asking r p 1⟩ =
      Gateway.follow { g.countForwarded.countForwarded with interconnection := ic } result :=
    dispatch_received (.admitted r p sequenced)
      (receiveAt_interconnection g.countForwarded.countForwarded .input crossing _)
  rw [accepted, ← taken]
  refine (leads_enqueued calm.still _).trans ?_
  change Leads (g.dispatch _) _
  rw [admitted]
  exact leads_enqueued calm.counted.still _

theorem serves_eq (g : Gateway) (p : ProtocolName) :
    g.frame.serves p = match g.entry? p with
      | none => false
      | some e => e.plugin.hasClient := by
  change (((g.entry? p).map PluginEntry.outlook).map (·.hasClient)).getD false = _
  cases g.entry? p <;> rfl

theorem hand_unserved {target : ProtocolName} (unserved : g.frame.serves target = false) (r : Request) :
    ∃ detail, g.hand r target = (g, .error detail) := by
  rw [serves_eq] at unserved
  unfold hand
  cases found : g.entry? target with
  | none => exact ⟨_, rfl⟩
  | some e =>
    rw [found] at unserved
    dsimp only at unserved ⊢
    rw [unserved]
    exact ⟨_, rfl⟩

theorem hand_served {target : ProtocolName} (served : g.frame.serves target = true) {r : Request}
    {h : Gateway} (sent : g.send target (.toB (.request r)) = (h, .ok ())) :
    g.hand r target = (h, .ok ()) := by
  rw [serves_eq] at served
  unfold hand
  cases found : g.entry? target with
  | none =>
    rw [found] at served
    cases served
  | some e =>
    rw [found] at served
    dsimp only at served ⊢
    rw [served, if_pos rfl, sent]

theorem leads_unserved (calm : g.Calm) (r : Request) (p : ProtocolName) (uri : ResourceUri)
    (unserved : g.frame.serves (.of uri.scheme) = false) :
    ∃ detail, Leads (g.enqueue (.forward (g.keys.onward r p uri)))
      (g.countForwarded.enqueue (.forward ⟨.manager, .interconnection, g.keys.wrap
        (.error (unavailable (r.rerouted uri.authority uri.pathAndQuery) (.of uri.scheme) detail))
        (.of uri.scheme)⟩)) := by
  obtain ⟨detail, refused⟩ : ∃ detail,
      g.countForwarded.hand (r.rerouted uri.authority uri.pathAndQuery) (.of uri.scheme) =
        (g.countForwarded, .error detail) := hand_unserved (g := g.countForwarded) unserved _
  have goes : g.dispatch (g.keys.onward r p uri) = g.countForwarded.follow
      (.ok (some ⟨.manager, .interconnection, g.keys.wrap
        (.error (unavailable (r.rerouted uri.authority uri.pathAndQuery) (.of uri.scheme) detail))
        (.of uri.scheme)⟩)) := by
    have delivered := g.countForwarded.deliver_handed
      (r.rerouted uri.authority uri.pathAndQuery) p (.of uri.scheme)
    rw [refused] at delivered
    exact dispatch_received (.routed _ p _) delivered
  refine ⟨detail, ?_⟩
  have leads := leads_enqueued calm.still (.forward (g.keys.onward r p uri))
  change Leads _ (g.dispatch _) at leads
  rw [goes] at leads
  change Leads _ (g.countForwarded.forward _) at leads
  rw [calm.counted.forward] at leads
  exact leads

theorem leads_served (calm : g.Calm) (r : Request) (p : ProtocolName) (uri : ResourceUri)
    (served : g.frame.serves (.of uri.scheme) = true) :
    Leads (g.enqueue (.forward (g.keys.onward r p uri)))
      (g.countForwarded.handOver (.of uri.scheme)
        (.toB (.request (r.rerouted uri.authority uri.pathAndQuery)))) := by
  have present : (g.countForwarded.outlook (.of uri.scheme)).isSome := by
    change (g.frame.outlook _).isSome = true
    unfold Frame.serves at served
    cases look : g.frame.outlook (.of uri.scheme) with
    | none =>
      rw [look] at served
      cases served
    | some o => rfl
  obtain ⟨h, sent, leads⟩ := leads_sent calm.counted present
    (.toB (.request (r.rerouted uri.authority uri.pathAndQuery)))
  have goes : g.dispatch (g.keys.onward r p uri) = h.follow (.ok none) := by
    have delivered := g.countForwarded.deliver_handed
      (r.rerouted uri.authority uri.pathAndQuery) p (.of uri.scheme)
    rw [hand_served (g := g.countForwarded) served sent] at delivered
    exact dispatch_received (.routed _ p _) delivered
  have first := leads_enqueued calm.still (.forward (g.keys.onward r p uri))
  change Leads _ (g.dispatch _) at first
  rw [goes] at first
  exact first.trans leads

/-! Submissions -/

structure Begun (g : Gateway) (p : ProtocolName) (s : Sequence) (k : Ticket) : Prop where
  waiting : g.exchanges[k]? = some .waiting
  recorded : Table.at? (g.pendingOf p) s = some k
  tickets : ∀ q u j, Table.at? (g.pendingOf q) u = some j → j < g.exchanges.length
  alone : ∀ q u, Table.at? (g.pendingOf q) u = some k → (q, u) = (p, s)

theorem Begun.of_traffic {p : ProtocolName} {s : Sequence} {k : Ticket} (begun : Begun g p s k)
    (same : g'.traffic = g.traffic) : Begun g' p s k := by
  have pending : g'.pendingOf = g.pendingOf := congrArg Traffic.pending same
  have exchanges : g'.exchanges = g.exchanges := congrArg Traffic.exchanges same
  constructor
  case waiting => exact exchanges ▸ begun.waiting
  case recorded => exact pending ▸ begun.recorded
  case tickets => exact exchanges ▸ pending ▸ begun.tickets
  case alone => exact pending ▸ begun.alone

theorem begun_await (tickets : ∀ q u j, Table.at? (g.pendingOf q) u = some j → j < g.exchanges.length)
    {p : ProtocolName} {e : PluginEntry} (registered : g.entry? p = some e) (q : Sequencer)
    (s : Sequence) :
    Begun (({ g with sequencer := q } : Gateway).await p s).2 p s g.exchanges.length := by
  have traffic := g.traffic_await q p s
  rw [awaited_registered registered] at traffic
  generalize (({ g with sequencer := q } : Gateway).await p s).2 = w at traffic ⊢
  have exchanges : w.exchanges = Traffic.superseded (g.exchanges ++ [.waiting])
      (Table.at? (g.pendingOf p) s) := congrArg Traffic.exchanges traffic
  have pending : w.pendingOf = Function.update g.pendingOf p
      (Table.put s g.exchanges.length (g.pendingOf p)) := congrArg Traffic.pending traffic
  have waits (q : ProtocolName) (u : Sequence) : Table.at? (w.pendingOf q) u =
      if q = p ∧ s = u then some g.exchanges.length else Table.at? (g.pendingOf q) u := by
    rw [pending, Function.update_apply]
    by_cases here : q = p
    · rw [if_pos here, Table.at?_put, here]
      simp only [true_and]
    · rw [if_neg here, if_neg fun both => here both.1]
  -- The new ticket is one past the last exchange, so no record has it and nothing supersedes it.
  constructor
  case waiting =>
    rw [exchanges, Traffic.superseded_at, if_neg]
    · rw [List.getElem?_append_right (Nat.le_refl _), Nat.sub_self]
      rfl
    · rintro ⟨old, _⟩
      exact Nat.lt_irrefl _ (tickets p s _ old)
  case recorded => rw [waits, if_pos ⟨rfl, rfl⟩]
  case tickets =>
    intro q u j found
    rw [exchanges, Traffic.length_superseded, List.length_append, List.length_singleton]
    rw [waits] at found
    split at found
    · cases found
      exact Nat.lt_succ_self _
    · exact Nat.lt_succ_of_lt (tickets q u j found)
  case alone =>
    intro q u found
    rw [waits] at found
    split at found
    · rename_i here
      rw [here.1, here.2]
    · exact absurd (tickets q u _ found) (Nat.lt_irrefl _)

theorem await_shape (g : Gateway) (p : ProtocolName) (s : Sequence) :
    ∃ exchanges, (g.await p s).2 =
      { g.updateEntry p fun e => { e with pending := Table.put s g.exchanges.length e.pending } with
        exchanges := exchanges } := by
  unfold await
  dsimp only
  split
  · unfold conclude
    split <;> exact ⟨_, rfl⟩
  · exact ⟨_, rfl⟩

theorem frame_await (g : Gateway) (p : ProtocolName) (s : Sequence) :
    (g.await p s).2.frame = g.frame := by
  obtain ⟨exchanges, shape⟩ := g.await_shape p s
  have same : Gateway.frame (g.updateEntry p fun e =>
      { e with pending := Table.put s g.exchanges.length e.pending }) = g.frame :=
    frame_updateEntry p fun _ _ => rfl
  rw [shape]
  exact same

theorem Calm.await (calm : g.Calm) (p : ProtocolName) (s : Sequence) : (g.await p s).2.Calm := by
  have ready : (g.await p s).2.frame.Ready := (g.frame_await p s).symm ▸ calm.ready
  obtain ⟨exchanges, shape⟩ := g.await_shape p s
  rw [shape] at ready ⊢
  refine ⟨ready, calm.still, fun q e found => ?_⟩
  have found : Gateway.entry? (g.updateEntry p fun e =>
    { e with pending := Table.put s g.exchanges.length e.pending }) q = some e := found
  exact calm.empty_updateEntry found fun _ => rfl

def numbered (g : Gateway) (r : Request) : Request :=
  ⟨(g.traffic.draw r).1, r.headers.freeze, r.payload.freeze⟩

/-- A gateway that was calm when a request was submitted to it, once the request has come to the
interconnection stage. -/
structure Asked (g : Gateway) (p : ProtocolName) (r : Request) (ic : Interconnection) (b : Gateway) :
    Prop where
  calm : b.Calm
  frame : b.frame = { g.frame with sequencer := (g.traffic.draw r).2 }
  stage : b.interconnection = ic
  begun : Begun b p (g.traffic.draw r).1 g.exchanges.length

theorem leads_submitted (calm : g.Calm)
    (tickets : ∀ q u j, Table.at? (g.pendingOf q) u = some j → j < g.exchanges.length)
    {p : ProtocolName} {e : PluginEntry} (registered : g.entry? p = some e) {r : Request}
    (fresh : r.sequence = 0) (number : (g.traffic.draw r).1 ≠ 0) {ic : Interconnection}
    {result : StageResult}
    (crossing : g.interconnection.onRequest g.instant (g.keys.asking (g.numbered r) p 2) =
      (ic, result)) :
    ∃ h b, g.submit p r = (h, .ok ((g.traffic.draw r).1, g.exchanges.length)) ∧
      Asked g p r ic b ∧ Leads h (b.follow result) := by
  unfold numbered at crossing
  have assigned : r.assignSequence (g.traffic.draw r).1 =
      .ok ⟨(g.traffic.draw r).1, r.headers.freeze, r.payload.freeze⟩ := by
    have unsequenced : r.isSequenced = false := by simp [Request.isSequenced, fresh]
    simp [Request.assignSequence, unsequenced, number]
  have submitted := submit_assigned (p := p) calm.running assigned
  obtain ⟨q, left⟩ : ∃ q, (g.traffic.draw r).2 = q := ⟨_, rfl⟩
  obtain ⟨s, drawn⟩ : ∃ s, (g.traffic.draw r).1 = s := ⟨_, rfl⟩
  rw [left, drawn] at submitted
  rw [drawn] at crossing number ⊢
  have calm' : ({ g with sequencer := q } : Gateway).Calm :=
    ⟨⟨calm.ready.running, calm.ready.names, calm.ready.listens⟩, calm.still, calm.empty⟩
  have stage := ({ g with sequencer := q } : Gateway).await_shape p s
  have frame := ({ g with sequencer := q } : Gateway).frame_await p s
  have calm'' := calm'.await p s
  have begun := begun_await tickets registered q s
  -- What matters from here on is what holds of the gateway, not how it came about.
  generalize (({ g with sequencer := q } : Gateway).await p s).2 = w at submitted stage frame calm'' begun
  have present : (w.outlook p).isSome := by
    have look : w.outlook p = g.outlook p := congrFun (congrArg Frame.outlook frame) p
    rw [look, outlook, registered]
    rfl
  have keys : w.keys = g.keys := congrArg Frame.keys frame
  have now : w.instant = g.instant := congrArg Instant.ofMillis (congrArg Frame.now frame)
  have kept : w.interconnection = g.interconnection := by
    obtain ⟨exchanges, shape⟩ := stage
    rw [shape]
    rfl
  obtain ⟨h, sent, goes⟩ := leads_sent calm'' present
    (.toA (.request ⟨s, r.headers.freeze, r.payload.freeze⟩))
  rw [sent] at submitted
  have asked : Asked g p r ic { w.countForwarded.countForwarded with interconnection := ic } := by
    constructor
    case calm => exact ⟨calm''.ready, calm''.still, calm''.empty⟩
    case frame => exact left ▸ frame
    case stage => rfl
    case begun => exact drawn ▸ ⟨begun.waiting, begun.recorded, begun.tickets, begun.alone⟩
  refine ⟨h, _, submitted, asked, goes.trans (leads_asking calm'' p ?_ ?_)⟩
  · simp [Request.isSequenced, number]
  · rw [kept, now, keys]
    exact crossing

end Gateway

end ProtocolGateway
