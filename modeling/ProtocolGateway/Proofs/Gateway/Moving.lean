import Mathlib
import ProtocolGateway.Proofs.Gateway.Dispatching

/-! Every move of a gateway as a step of its traffic. -/

namespace ProtocolGateway

open Traffic (Step)

namespace Gateway

/-! Submitting -/

theorem conclude_plugins (g : Gateway) (k : Ticket) (x : Resolution) :
    (g.conclude k x).1.plugins = g.plugins := by
  rw [conclude_eq]

def awaited (g : Gateway) (p : ProtocolName) (s : Sequence) : Table Sequence Ticket :=
  ((g.entry? p).map fun e => Table.put s g.exchanges.length e.pending).getD []

theorem erase_awaited (g : Gateway) (p : ProtocolName) (s : Sequence) :
    Table.erase (g.awaited p s) s = Table.erase (g.pendingOf p) s := by
  unfold awaited pendingOf
  cases g.entry? p with
  | none => rfl
  | some e => exact Table.erase_put e.pending s g.exchanges.length

theorem awaited_registered {g : Gateway} {p : ProtocolName} {e : PluginEntry}
    (registered : g.entry? p = some e) (s : Sequence) :
    g.awaited p s = Table.put s g.exchanges.length (g.pendingOf p) := by
  unfold awaited pendingOf
  rw [registered]
  rfl

theorem traffic_await (g : Gateway) (q : Sequencer) (p : ProtocolName) (s : Sequence) :
    (({ g with sequencer := q } : Gateway).await p s).2.traffic = { g.traffic with
      sequencer := q
      pending := Function.update g.pendingOf p (g.awaited p s)
      exchanges := Traffic.superseded (g.exchanges ++ [.waiting]) (Table.at? (g.pendingOf p) s) } := by
  let g' : Gateway := { g with sequencer := q, exchanges := g.exchanges ++ [.waiting] }
  have waiting : (g'.entry? p).bind (fun e => Table.at? e.pending s) = Table.at? (g.pendingOf p) s :=
    g.pending?_eq p s
  have placed (h : Gateway) (same : h.plugins = g.plugins) :
      (h.updateEntry p fun e => { e with pending := Table.put s g.exchanges.length e.pending }).traffic =
        { h.traffic with pending := Function.update g.pendingOf p (g.awaited p s) } := by
    have entry : h.entry? = g.entry? := by
      funext q
      unfold entry?
      rw [same]
    rw [traffic_updatePending h p (Table.put s g.exchanges.length)]
    unfold pendingOf awaited
    rw [entry]
  unfold await
  dsimp only
  rw [waiting]
  cases Table.at? (g.pendingOf p) s with
  | none => exact placed g' rfl
  | some old =>
    dsimp only
    rw [placed _ (g'.conclude_plugins old .dropped), traffic_conclude]
    rfl

theorem await_registered {g : Gateway} {p : ProtocolName} {s : Sequence}
    (registered : (Gateway.entry? (g.await p s).2 p).isSome) : ∃ e, g.entry? p = some e := by
  unfold await at registered
  dsimp only at registered
  rw [entry?_updateEntry, if_pos rfl, Option.isSome_map] at registered
  split at registered
  · unfold entry? at registered
    rw [conclude_plugins] at registered
    exact Option.isSome_iff_exists.mp registered
  · exact Option.isSome_iff_exists.mp registered

theorem submit_assigned {g : Gateway} {p : ProtocolName} {r sealed : Request}
    (running : g.phase = .running)
    (assigned : r.assignSequence (g.traffic.draw r).1 = .ok sealed) :
    g.submit p r =
      match (({ g with sequencer := (g.traffic.draw r).2 } : Gateway).await p (g.traffic.draw r).1).2.send p
        (.toA (.request sealed)) with
      | (g', .ok ()) => (g', .ok ((g.traffic.draw r).1, g.exchanges.length))
      | (g', .error cause) =>
        (((g'.release p (g.traffic.draw r).1).conclude g.exchanges.length .dropped).1,
          .error cause.asLinkError) := by
  have taken : g.admission = .ok () := by simp [admission, running]
  change r.assignSequence (g.sequencer.next r.headers.operation).1 = _ at assigned
  unfold submit
  rw [taken]
  dsimp only
  rw [assigned]
  rfl

theorem submitNotes_assigned {g : Gateway} {p : ProtocolName} {r sealed : Request}
    (running : g.phase = .running)
    (assigned : r.assignSequence (g.traffic.draw r).1 = .ok sealed) :
    g.submitNotes p r =
      .drew (g.traffic.draw r).1 :: g.traffic.round p (g.traffic.draw r).1 ++
        match (g.submit p r).2 with
        | .ok (_, ticket) => [.accepted ⟨p, r, (g.traffic.draw r).1, ticket⟩]
        | .error _ => [] := by
  have taken : g.admission = .ok () := by simp [admission, running]
  change r.assignSequence (g.sequencer.next r.headers.operation).1 = _ at assigned
  unfold submitNotes
  rw [taken]
  dsimp only
  rw [assigned, pending?_eq]
  rfl

/-- How a submission can end: as if it had not been made, with a number used up for nothing, refused
by the sink, or accepted. -/
inductive Submits (t : Traffic) (p : ProtocolName) (r : Request) :
    Traffic → List Note → Except LinkError (Sequence × Ticket) → Prop where
  | turnedDown (e : LinkError) : Submits t p r t [] (.error e)
  | drawn (e : LinkError) (running : t.phase = .running) :
      Submits t p r { t with sequencer := (t.draw r).2 } [.drew (t.draw r).1] (.error e)
  | refused (e : LinkError) (running : t.phase = .running) :
      Submits t p r
        { t with
          sequencer := (t.draw r).2
          pending := Function.update t.pending p (Table.erase (t.pending p) (t.draw r).1)
          exchanges := Traffic.concluded
            (Traffic.superseded (t.exchanges ++ [.waiting]) (Table.at? (t.pending p) (t.draw r).1))
            t.exchanges.length .dropped }
        (.drew (t.draw r).1 :: t.round p (t.draw r).1) (.error e)
  | accepted (a : Acceptance) (mine : a.protocol = p ∧ a.request = r) (running : t.phase = .running)
      (number : a.sequence = (t.draw a.request).1) (nonzero : a.sequence ≠ 0)
      (new : a.ticket = t.exchanges.length) :
      Submits t p r { t.accepting a with sequencer := (t.draw a.request).2 }
        (.drew a.sequence :: t.round a.protocol a.sequence ++ [.accepted a])
        (.ok (a.sequence, a.ticket))

theorem submit_submits (g : Gateway) (p : ProtocolName) (r : Request) :
    Submits g.traffic p r (g.submit p r).1.traffic (g.submitNotes p r) (g.submit p r).2 := by
  by_cases running : g.phase = .running
  · cases assigned : r.assignSequence (g.traffic.draw r).1 with
    | error cause =>
      have taken : g.admission = .ok () := by simp [admission, running]
      change r.assignSequence (g.sequencer.next r.headers.operation).1 = _ at assigned
      unfold submitNotes submit
      rw [taken]
      dsimp only
      rw [assigned]
      exact .drawn _ running
    | ok sealed =>
      obtain ⟨_, nonzero, rfl⟩ := Request.assignSequence_ok assigned
      have result := submit_assigned (p := p) running assigned
      have waiting := g.traffic_await (g.traffic.draw r).2 p (g.traffic.draw r).1
      have known := await_registered (g := { g with sequencer := (g.traffic.draw r).2 }) (p := p)
        (s := (g.traffic.draw r).1)
      rw [submitNotes_assigned running assigned]
      generalize (({ g with sequencer := (g.traffic.draw r).2 } : Gateway).await p
        (g.traffic.draw r).1).2 = g' at result waiting known
      -- `g'` has the request on record already; the sink takes it or it is taken off again.
      have pending : g'.pendingOf = Function.update g.pendingOf p (g.awaited p (g.traffic.draw r).1) :=
        congrArg Traffic.pending waiting
      rcases g'.traffic_send p (.toA (.request ⟨(g.traffic.draw r).1, r.headers.freeze,
        r.payload.freeze⟩)) with ⟨cause, failed⟩ | ⟨g'', accepted, registered, sent⟩
      · have exchanges : g'.exchanges = Traffic.superseded (g.exchanges ++ [.waiting])
            (Table.at? (g.pendingOf p) (g.traffic.draw r).1) := congrArg Traffic.exchanges waiting
        rw [failed] at result
        rw [result, List.append_nil, traffic_conclude, traffic_release, pending,
          Function.update_self, erase_awaited, Function.update_idem, waiting]
        change Submits g.traffic p r { g.traffic with
          sequencer := _, pending := _, exchanges := Traffic.concluded g'.exchanges _ _ } _ _
        rw [exchanges]
        exact .refused _ running
      · obtain ⟨e, found⟩ : ∃ e, g.entry? p = some e := known registered
        have asked : g'.askedOf = g.askedOf := congrArg Traffic.asked waiting
        rw [accepted] at result
        rw [result, sent, asked, waiting, awaited_registered found]
        exact .accepted ⟨p, r, (g.traffic.draw r).1, g.exchanges.length⟩ ⟨rfl, rfl⟩ running rfl nonzero
          rfl
  · have refused : ∃ e, g.admission = .error e := by
      unfold admission
      cases phase : g.phase with
      | running => exact absurd phase running
      | created | stopped | gone => exact ⟨_, rfl⟩
    obtain ⟨e, refused⟩ := refused
    unfold submitNotes submit
    rw [refused]
    exact .turnedDown e

theorem step_submit (g : Gateway) (p : ProtocolName) (r : Request) :
    Step g.traffic (g.submitNotes p r) (g.submit p r).1.traffic := by
  have submits := g.submit_submits p r
  generalize g.traffic = t, (g.submit p r).1.traffic = t', g.submitNotes p r = notes,
    (g.submit p r).2 = outcome at submits ⊢
  cases submits with
  | turnedDown e => exact .quiet
  | drawn e running => exact .drawn r running
  | refused e running => exact .refused p r running
  | accepted a mine running number nonzero new => exact .accepted a running number nonzero new

/-! Sinks -/

theorem onward_gone {t : Traffic} (gone : t.phase = .gone) (hops : List Hop) (hop : Option Hop) :
    t.onward hops hop = hops := by
  unfold Traffic.onward
  cases hop with
  | none => rfl
  | some hop => simp [gone]

theorem step_handOver {g g' : Gateway} {p : ProtocolName} {parcel : Parcel Outbound Inbound}
    {rest : List Request} (before : g.askedOf p = parcel.asking?.toList ++ rest)
    (taken : g'.traffic = { g.traffic with asked := Function.update g.askedOf p rest }) :
    Step g.traffic [] (g'.handOver p parcel).traffic := by
  have keys : g'.keys = g.keys := congrArg Traffic.keys taken
  have phase : g'.phase = g.phase := congrArg Traffic.phase taken
  have onward (hop : Option Hop) : g'.traffic.onward g'.hops hop = g.traffic.onward g.hops hop := by
    change Traffic.onward g'.traffic g'.traffic.hops hop = _
    rw [taken]
    rfl
  -- Whatever is no request leaves the queue of requests as it was.
  have silent (other : parcel.asking? = none) : g'.traffic = g.traffic := by
    rw [other] at before
    have same : g.askedOf p = rest := before
    rw [taken, ← same, Function.update_eq_self]
    rfl
  have handed := g'.handOver_cases p parcel
  generalize g'.handOver p parcel = after at handed ⊢
  cases handed with
  | lost inbound gone =>
    cases inbound with
    | request r =>
      have entered := Step.entered (t := g.traffic) p r rest before
      rw [onward_gone (t := g.traffic) (phase.symm.trans gone)] at entered
      exact taken ▸ entered
    | answer m =>
      rw [silent rfl]
      exact .quiet
  | asks r there =>
    rw [traffic_forward, onward, taken, keys]
    exact .entered p r rest before
  | answers m there =>
    rw [traffic_forward, onward, silent rfl, keys]
    exact .arrived p m
  | unheard outbound absent =>
    rw [silent rfl]
    exact .quiet
  | handled e r found quiet =>
    rw [traffic_setPlugin, silent rfl]
    exact .quiet
  | responds e r found =>
    rw [traffic_respond_enqueued, traffic_setPlugin, silent rfl]
    exact .quiet
  | pushed e r found =>
    rw [traffic_setPlugin, silent rfl]
    exact .quiet

theorem step_consume {g g' : Gateway} (same : g'.traffic = g.traffic) (p : ProtocolName) :
    Step g.traffic [] (g'.consume p).traffic := by
  rcases g'.consume_cases p with idle | ⟨e, parcel, sink, found, next, given⟩
  · rw [idle, same]
    exact .quiet
  · have asked : g'.askedOf = g.askedOf := congrArg Traffic.asked same
    have before : g.askedOf p = parcel.asking?.toList ++ sink.queue.filterMap Parcel.asking? := by
      rw [← asked]
      unfold askedOf
      rw [found]
      change e.sink.queue.filterMap Parcel.asking? = _
      rw [Sink.next_queue next, List.filterMap_cons]
      cases parcel.asking? <;> rfl
    have taken : (g'.updateEntry p fun e => { e with sink := sink }).traffic = { g.traffic with
        asked := Function.update g.askedOf p (sink.queue.filterMap Parcel.asking?) } := by
      rw [traffic_updateSink, found, same, asked]
      rfl
    have step := step_handOver before taken
    rcases given with last | more
    · rw [last]
      exact step
    · rw [more, traffic_enqueueFirst _ rfl]
      exact step

theorem traffic_respond (g : Gateway) (p : ProtocolName) (messages : List Message) :
    (g.respond p messages).traffic = g.traffic := by
  rcases g.respond_cases p messages with idle | ⟨m, rest, _, sent | more⟩
  · rw [idle]
  · rw [sent, traffic_send_other _ _ _ rfl]
  · rw [more, traffic_enqueueFirst _ rfl, traffic_send_other _ _ _ rfl]

/-! Tasks -/

theorem step_run (g : Gateway) (orderly : g.traffic.Orderly) (i : Nat) :
    Step g.traffic (g.notes (.event (.run i))) (g.runTask i).traffic := by
  unfold runTask
  rw [notes_run]
  cases found : g.tasks[i]? with
  | none => exact .quiet
  | some t =>
    obtain ⟨before, after, split, erased⟩ := split_tasks found
    dsimp only [Option.elim_some]
    rw [erased]
    have left (silent : t.hop? = none) :
        ({ g with tasks := before ++ after } : Gateway).traffic = g.traffic := by
      have same : (before ++ after).filterMap Task.hop? = g.hops := by
        unfold hops
        rw [split]
        simp [silent]
      change { g.traffic with hops := (before ++ after).filterMap Task.hop? } = _
      rw [same]
      rfl
    cases t with
    | forward hop => exact g.step_dispatch orderly split
    | consume p => exact step_consume (left rfl) p
    | respond p messages =>
      have same := traffic_respond { g with tasks := before ++ after } p messages
      rw [left rfl] at same
      change Step g.traffic [] (respond _ p messages).traffic
      rw [same]
      exact .quiet

/-! Lives -/

theorem traffic_plugins (g : Gateway) (entries : Entries)
    (pending : ∀ p, (Table.at? entries p).map PluginEntry.pending =
      (g.entry? p).map PluginEntry.pending)
    (asked : ∀ p, (Table.at? entries p).map PluginEntry.asked =
      (g.entry? p).map PluginEntry.asked) :
    ({ g with plugins := entries } : Gateway).traffic = g.traffic := by
  let g' : Gateway := { g with plugins := entries }
  have waits : g'.pendingOf = g.pendingOf := funext fun p => congrArg (Option.getD · []) (pending p)
  have asks : g'.askedOf = g.askedOf := funext fun p => congrArg (Option.getD · []) (asked p)
  change { g.traffic with pending := g'.pendingOf, asked := g'.askedOf } = _
  rw [waits, asks]
  rfl

theorem lockAll_at? {α : Type} {f : PluginEntry → α}
    (blind : ∀ e plugin, f { e with plugin := plugin } = f e) (es : Entries) (p : ProtocolName) :
    (Table.at? (lockAll es).1 p).map f = (Table.at? es p).map f := by
  induction es with
  | nil => rfl
  | cons head rest ih =>
    obtain ⟨q, e⟩ := head
    unfold lockAll
    split
    · rfl
    · dsimp only
      rw [Table.at?_cons, Table.at?_cons]
      split
      · exact congrArg some (blind e _)
      · exact ih

theorem advanceAll_at? (step : Plugin → Plugin × Except PluginError Unit) {α : Type}
    {f : PluginEntry → α} (blind : ∀ e plugin, f { e with plugin := plugin } = f e) (es : Entries)
    (p : ProtocolName) : (Table.at? (advanceAll step es).1 p).map f = (Table.at? es p).map f := by
  induction es with
  | nil => rfl
  | cons head rest ih =>
    obtain ⟨q, e⟩ := head
    unfold advanceAll
    dsimp only
    rw [Table.at?_cons, Table.at?_cons]
    split
    · exact congrArg some (blind e _)
    · exact ih

theorem register_ok {g g' : Gateway} {plugin : Plugin} (registered : g.register plugin = .ok g') :
    g.phase = .created ∧ (plugin.hasClient = true ∨ plugin.hasServer = true) ∧
      ¬Table.has g.plugins plugin.protocol = true ∧
      g' = { g with plugins := Table.put plugin.protocol ⟨plugin.link, [], .wired⟩ g.plugins } := by
  unfold register at registered
  dsimp only at registered
  split at registered
  · cases registered
  · rename_i created
    split at registered
    · cases registered
    · rename_i capable
      split at registered
      · cases registered
      · rename_i new
        refine ⟨not_not.mp created, ?_, new, (Except.ok.inj registered).symm⟩
        cases client : plugin.hasClient with
        | true => exact Or.inl rfl
        | false =>
          right
          rw [client] at capable
          simpa using capable

theorem traffic_register {g g' : Gateway} {plugin : Plugin} (registered : g.register plugin = .ok g') :
    g'.traffic = g.traffic := by
  obtain ⟨_, _, new, rfl⟩ := register_ok registered
  have absent : Table.at? g.plugins plugin.protocol = none := by
    rw [Table.has_eq] at new
    exact Option.not_isSome_iff_eq_none.mp new
  -- The new entry is empty, like what is read where there is none.
  have same {α : Type} (f : PluginEntry → List α) (empty : f ⟨plugin.link, [], .wired⟩ = [])
      (p : ProtocolName) :
      ((Table.at? (Table.put plugin.protocol ⟨plugin.link, [], .wired⟩ g.plugins) p).map f).getD [] =
        ((g.entry? p).map f).getD [] := by
    rw [Table.at?_put]
    split
    · rename_i here
      rw [← here]
      unfold entry?
      rw [absent]
      exact empty
    · rfl
  let g' : Gateway :=
    { g with plugins := Table.put plugin.protocol ⟨plugin.link, [], .wired⟩ g.plugins }
  have pending : g'.pendingOf = g.pendingOf := funext (same PluginEntry.pending rfl)
  have asked : g'.askedOf = g.askedOf := funext (same PluginEntry.asked rfl)
  change { g.traffic with pending := g'.pendingOf, asked := g'.askedOf } = _
  rw [pending, asked]
  rfl

theorem concludeAll_eq (ks : List Ticket) (g : Gateway) :
    ks.foldl (fun g k => (g.conclude k .dropped).1) g = { g with
      exchanges := ks.foldl (fun xs k => Traffic.concluded xs k .dropped) g.exchanges } := by
  induction ks generalizing g with
  | nil => rfl
  | cons k rest ih =>
    rw [List.foldl_cons, ih, conclude_eq]
    rfl

theorem traffic_concludeAll (ks : List Ticket) (g : Gateway) :
    (ks.foldl (fun g k => (g.conclude k .dropped).1) g).traffic = { g.traffic with
      exchanges := ks.foldl (fun xs k => Traffic.concluded xs k .dropped) g.exchanges } ∧
    (ks.foldl (fun g k => (g.conclude k .dropped).1) g).plugins = g.plugins := by
  rw [concludeAll_eq]
  exact ⟨rfl, rfl⟩

theorem traffic_dropPending (g : Gateway) :
    ∃ exchanges, Traffic.Drops g.exchanges exchanges ∧
      g.dropPending.traffic = { g.traffic with pending := fun _ => [], exchanges := exchanges } := by
  let tickets := g.plugins.flatMap fun e => e.2.pending.map (·.2)
  obtain ⟨traffic, plugins⟩ := traffic_concludeAll tickets g
  refine ⟨_, Traffic.drops_all tickets g.exchanges, ?_⟩
  -- The sinks are not touched, so what is asked stays.
  let g' := tickets.foldl (fun g k => (g.conclude k .dropped).1) g
  let emptied : Gateway :=
    { g' with plugins := g'.plugins.map fun e => (e.1, { e.2 with pending := [] }) }
  have entry (p : ProtocolName) :
      emptied.entry? p = (g'.entry? p).map fun e => { e with pending := [] } :=
    Table.at?_map g'.plugins (fun e => (⟨e.plugin, [], e.sink⟩ : PluginEntry)) p
  have pending : emptied.pendingOf = fun _ => [] := by
    funext p
    unfold pendingOf
    rw [entry]
    cases g'.entry? p <;> rfl
  have asked : emptied.askedOf = g'.askedOf := by
    funext p
    unfold askedOf
    rw [entry]
    cases g'.entry? p <;> rfl
  change { g'.traffic with pending := emptied.pendingOf, asked := emptied.askedOf } = _
  rw [pending, asked]
  change { g'.traffic with pending := fun _ => [] } = _
  rw [traffic]

theorem traffic_stop {g : Gateway} (phase : g.phase ≠ .stopped) :
    ∃ exchanges, Traffic.Drops g.exchanges exchanges ∧
      g.stop.1.traffic =
        { g.traffic with phase := .stopped, pending := fun _ => [], exchanges := exchanges } := by
  let closed : Entries := g.plugins.map fun e => (e.1, { e.2 with sink := e.2.sink.close })
  let g' : Gateway := { g with plugins := (advanceAll Plugin.stop closed).1 }
  have shut (p : ProtocolName) : Table.at? closed p =
      (g.entry? p).map fun e => { e with sink := e.sink.close } :=
    Table.at?_map g.plugins (fun e : PluginEntry => { e with sink := e.sink.close }) p
  -- Closing a sink keeps its queue, and stopping a plugin is the plugin's own matter.
  have still : g'.traffic = g.traffic := by
    apply traffic_plugins
    · intro p
      rw [advanceAll_at? Plugin.stop (fun _ _ => rfl), shut, Option.map_map]
      rfl
    · intro p
      rw [advanceAll_at? Plugin.stop (fun _ _ => rfl), shut, Option.map_map]
      rfl
  obtain ⟨exchanges, drops, dropped⟩ := traffic_dropPending { g' with phase := .stopped }
  refine ⟨exchanges, drops, ?_⟩
  unfold stop
  rw [if_neg phase]
  change (dropPending { g' with phase := .stopped }).traffic = _
  rw [dropped]
  change { ({ g'.traffic with phase := .stopped } : Traffic) with
    pending := fun _ => [], exchanges := exchanges } = _
  rw [still]

theorem step_start (g : Gateway) : Step g.traffic [] g.start.1.traffic := by
  unfold start
  by_cases created : g.phase = .created
  · rw [if_neg (not_not_intro created)]
    have locked := traffic_plugins g (lockAll g.plugins).1
      (lockAll_at? (fun _ _ => rfl) g.plugins) (lockAll_at? (fun _ _ => rfl) g.plugins)
    generalize lockAll g.plugins = result at locked ⊢
    obtain ⟨entries, outcome⟩ := result
    cases outcome with
    | error e =>
      rw [locked]
      exact .quiet
    | ok _ =>
      let g' : Gateway := { g with plugins := (advanceAll Plugin.start entries).1 }
      have advanced : g'.traffic = g.traffic := by
        rw [← locked]
        exact traffic_plugins { g with plugins := entries } _
          (advanceAll_at? Plugin.start (fun _ _ => rfl) entries)
          (advanceAll_at? Plugin.start (fun _ _ => rfl) entries)
      have running : ({ g' with phase := .running } : Gateway).traffic =
          { g.traffic with phase := .running } :=
        congrArg (fun t : Traffic => { t with phase := .running }) advanced
      dsimp only
      cases (advanceAll Plugin.start entries).2 with
      | ok _ =>
        change Step g.traffic [] ({ g' with phase := .running } : Gateway).traffic
        rw [running]
        exact .started created
      | error e =>
        obtain ⟨exchanges, drops, stopped⟩ :=
          traffic_stop (g := { g' with phase := .running }) (by simp)
        change Step g.traffic [] (stop { g' with phase := .running }).1.traffic
        rw [stopped, running]
        exact .stopped exchanges drops
  · rw [if_pos created]
    exact .quiet

theorem step_move (g : Gateway) (orderly : g.traffic.Orderly) (m : Move) :
    Step g.traffic (g.notes m) (g.move m).traffic := by
  cases m with
  | register plugin =>
    rw [move]
    cases registered : g.register plugin with
    | ok g' =>
      change Step g.traffic [] g'.traffic
      rw [traffic_register registered]
      exact .quiet
    | error e => exact .quiet
  | start => exact g.step_start
  | stop =>
    change Step g.traffic [] g.stop.1.traffic
    by_cases stopped : g.phase = .stopped
    · unfold stop
      rw [if_pos stopped]
      exact .quiet
    · obtain ⟨exchanges, drops, result⟩ := traffic_stop stopped
      rw [result]
      exact .stopped exchanges drops
  | letGo => exact .gone
  | become p plugin =>
    change Step g.traffic [] (g.setPlugin p plugin).traffic
    rw [traffic_setPlugin]
    exact .quiet
  | event e =>
    cases e with
    | submit p r => exact g.step_submit p r
    | reply p m =>
      change Step g.traffic [] (g.reply p m).1.traffic
      rw [traffic_reply]
      exact .quiet
    | notify p authority path content =>
      change Step g.traffic [] (g.notify p authority path content).1.traffic
      rw [traffic_notify]
      exact .quiet
    | abandon k =>
      change Step g.traffic [] (g.abandon k).traffic
      unfold abandon
      split
      · rename_i waiting
        exact .abandoned k waiting
      · exact .quiet
    | run i => exact g.step_run orderly i
    | pass ms => exact .quiet

end Gateway

end ProtocolGateway
