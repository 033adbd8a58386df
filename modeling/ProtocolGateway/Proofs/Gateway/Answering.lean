import Mathlib
import ProtocolGateway.Proofs.Gateway.Passage

/-!
What a move adds to what is under way. Plugins answer with replies and errors, so whatever travels as
an answer is one; and a move takes one value in at most, or one hop out and one on.
-/

namespace ProtocolGateway

/-! What plugins hand in -/

/-- Plugins answer with replies and errors; their reply links take nothing else. -/
def Move.Proper : Move → Prop
  | .event (.reply _ m) => m.isReplyLike = true
  | _ => True

def Task.Answers : Task → Prop
  | .consume _ => True
  | .forward hop => hop.Answers
  | .respond _ messages => ∀ m ∈ messages, m.isReplyLike = true

def Parcel.Answers : Parcel Outbound Inbound → Prop
  | .toA (.answer m) => m.isReplyLike = true
  | _ => True

theorem MemoryTarget.answer_answers (t : MemoryTarget) (r : Request) :
    ∀ m ∈ (t.answer r).2, m.isReplyLike = true := by
  intro m member
  unfold answer at member
  dsimp only at member
  split at member
  case h_3 =>
    split at member <;> simp only [List.mem_cons, List.not_mem_nil, or_false] at member
    · rcases member with rfl | rfl <;> rfl
    · subst member
      rfl
  all_goals
    rw [List.mem_singleton.mp member]
    rfl

theorem Plugin.handleRequest_answers (plugin : Plugin) (r : Request) :
    ∀ m ∈ (plugin.handleRequest r).2, m.isReplyLike = true := by
  intro m member
  cases plugin with
  | target t =>
    change m ∈ (t.handleRequest r).2 at member
    unfold MemoryTarget.handleRequest at member
    dsimp only at member
    split at member
    · exact MemoryTarget.answer_answers _ r m member
    · cases member
  | origin o => cases member
  | scripted s => cases member

namespace Gateway

abbrev Answers (g : Gateway) : Prop := Carries Task.Answers (fun _ => Parcel.Answers) g

theorem answers_new (config : ManagerConfig) (cache : ReplyCache) : (new config cache).Answers :=
  ⟨fun _ member => (nomatch member), fun _ _ found => nomatch found⟩

variable {g : Gateway}

theorem Answers.dispatch (answers : g.Answers)
    (token : g.interconnection.token = g.keys.interconnection)
    (keyed : g.interconnection.subscriptions.Keyed) {hop : Hop} (lawful : Lawful g.keys hop)
    (own : hop.Answers) : (g.dispatch hop).Answers := by
  obtain ⟨g', r, received, receives⟩ := receives_lawful g.countForwarded token keyed lawful own
  have counted : g.countForwarded.Answers := ⟨answers.tasks, answers.queues⟩
  have given : Answers (g.countForwarded.receiveAt hop
      { hop.envelope with hops := hop.envelope.hops + 1 }).1 :=
    counted.receiveAt (fun _ => trivial) (fun _ _ _ _ => trivial) fun _ _ _ _ => trivial
  rw [received] at given
  unfold Gateway.dispatch
  rw [checkHop_lawful g lawful]
  dsimp only
  rw [received]
  exact given.follow fun out sent => (receives.next out sent).2

theorem Answers.run (answers : g.Answers) (orderly : g.traffic.Orderly) (i : Nat) :
    (g.runTask i).Answers := by
  unfold runTask
  cases found : g.tasks[i]? with
  | none => exact answers
  | some t =>
    obtain ⟨before, after, split, erased⟩ := split_tasks found
    have own : t.Answers := answers.tasks t (split ▸ by simp)
    have fewer : before ++ after ⊆ g.tasks := by
      rw [split]
      exact ((List.sublist_cons_self t after).append_left before).subset
    have rest : ({ g with tasks := before ++ after } : Gateway).Answers := answers.fewer fewer rfl
    dsimp only
    rw [erased]
    cases t with
    | consume p =>
      exact rest.consume trivial (fun r _ source target => (nomatch target)) (fun m good _ _ => good)
        fun e r _ _ => e.plugin.handleRequest_answers r
    | forward hop =>
      have here : hop ∈ g.traffic.hops := by
        change hop ∈ g.tasks.filterMap Task.hop?
        rw [split]
        simp [Task.hop?]
      have lawful := orderly.lawful hop here
      exact rest.dispatch orderly.token orderly.keyed lawful own
    | respond p messages =>
      refine rest.respond trivial own fun m more same => ?_
      subst same
      exact fun m' member => own m' (List.mem_cons_of_mem m member)

/-! Lives -/

structure Unmoved (g g' : Gateway) : Prop where
  tasks : g'.tasks = g.tasks
  counters : g'.counters = g.counters
  queues : ∀ p e, g'.entry? p = some e →
    e.sink.queue = [] ∨ ∃ e', g.entry? p = some e' ∧ e.sink.queue = e'.sink.queue

theorem Answers.unmoved {g' : Gateway} (answers : g.Answers) (unmoved : Unmoved g g') : g'.Answers where
  tasks t member := answers.tasks t (unmoved.tasks ▸ member)
  queues p e found x member := by
    rcases unmoved.queues p e found with empty | ⟨e', found', same⟩
    · rw [empty] at member
      cases member
    · exact answers.queues p e' found' x (same ▸ member)

theorem Unmoved.of_queues {g' : Gateway} (tasks : g'.tasks = g.tasks) (counters : g'.counters = g.counters)
    (queues : ∀ p, (g'.entry? p).map (·.sink.queue) = (g.entry? p).map (·.sink.queue)) :
    Unmoved g g' where
  tasks := tasks
  counters := counters
  queues p e found := by
    have same := queues p
    rw [found] at same
    obtain ⟨e', found', queue⟩ := Option.map_eq_some_iff.mp same.symm
    exact Or.inr ⟨e', found', queue.symm⟩

theorem Unmoved.refl (g : Gateway) : Unmoved g g := .of_queues rfl rfl fun _ => rfl

theorem unmoved_register {g' : Gateway} {plugin : Plugin} (registered : g.register plugin = .ok g') :
    Unmoved g g' := by
  obtain ⟨_, _, _, rfl⟩ := register_ok registered
  refine ⟨rfl, rfl, fun p e found => ?_⟩
  change Table.at? (Table.put plugin.protocol _ g.plugins) p = some e at found
  rw [Table.at?_put] at found
  split at found
  · cases found
    exact Or.inl rfl
  · exact Or.inr ⟨e, found, rfl⟩

theorem unmoved_dropPending (g : Gateway) : Unmoved g g.dropPending := by
  let ks := g.plugins.flatMap fun e => e.2.pending.map (·.2)
  let emptied (e : PluginEntry) : PluginEntry := { e with pending := [] }
  let g' := ks.foldl (fun g k => (g.conclude k .dropped).1) g
  have ended : g' = { g with
      exchanges := ks.foldl (fun xs k => Traffic.concluded xs k .dropped) g.exchanges } :=
    concludeAll_eq ks g
  have plugins : g'.plugins = g.plugins := by rw [ended]
  have tasks : g'.tasks = g.tasks := by rw [ended]
  have counters : g'.counters = g.counters := by rw [ended]
  refine .of_queues tasks counters fun p => ?_
  change (Table.at? (g'.plugins.map fun e => (e.1, emptied e.2)) p).map (·.sink.queue) = _
  rw [plugins, Table.at?_map g.plugins emptied p, Option.map_map]
  rfl

theorem Unmoved.trans {g' g'' : Gateway} (first : Unmoved g g') (second : Unmoved g' g'') :
    Unmoved g g'' where
  tasks := second.tasks.trans first.tasks
  counters := second.counters.trans first.counters
  queues p e found := by
    rcases second.queues p e found with empty | ⟨e', found', same⟩
    · exact Or.inl empty
    · rcases first.queues p e' found' with empty | ⟨e'', found'', same'⟩
      · exact Or.inl (same.trans empty)
      · exact Or.inr ⟨e'', found'', same.trans same'⟩

theorem unmoved_stop (g : Gateway) : Unmoved g g.stop.1 := by
  let close (e : PluginEntry) : PluginEntry := { e with sink := e.sink.close }
  let closed : Entries := g.plugins.map fun e => (e.1, close e.2)
  let g' : Gateway := { g with phase := .stopped, plugins := (advanceAll Plugin.stop closed).1 }
  have shut : Unmoved g g' := .of_queues rfl rfl fun p => by
    change (Table.at? (advanceAll Plugin.stop closed).1 p).map (·.sink.queue) = _
    rw [advanceAll_at? Plugin.stop (fun _ _ => rfl), Table.at?_map g.plugins close p, Option.map_map]
    rfl
  unfold stop
  split
  · exact .refl g
  · exact shut.trans g'.unmoved_dropPending

theorem unmoved_start (g : Gateway) : Unmoved g g.start.1 := by
  unfold start
  split
  · exact .refl g
  · have locked := lockAll_at? (f := (·.sink.queue)) (fun _ _ => rfl) g.plugins
    generalize lockAll g.plugins = result at locked ⊢
    obtain ⟨entries, outcome⟩ := result
    cases outcome with
    | error e => exact .of_queues rfl rfl locked
    | ok _ =>
      dsimp only
      let g' : Gateway := { g with phase := .running, plugins := (advanceAll Plugin.start entries).1 }
      have advanced : Unmoved g g' := .of_queues rfl rfl fun p =>
        (advanceAll_at? Plugin.start (fun _ _ => rfl) entries p).trans (locked p)
      cases (advanceAll Plugin.start entries).2 with
      | ok _ => exact advanced
      | error e => exact advanced.trans g'.unmoved_stop

theorem unmoved_abandon (g : Gateway) (t : Ticket) : Unmoved g (g.abandon t) := by
  unfold abandon
  split
  · exact .of_queues rfl rfl fun _ => rfl
  · exact .refl g

theorem Answers.await (answers : g.Answers) (p : ProtocolName) (s : Sequence) :
    (g.await p s).2.Answers := by
  let g' : Gateway := { g with exchanges := g.exchanges ++ [Exchange.waiting] }
  have begun : g'.Answers := answers.fewer (List.Subset.refl _) rfl
  unfold Gateway.await
  dsimp only
  split
  · rename_i old _
    exact Carries.updateBeside (begun.conclude old .dropped) p
      (f := fun e => { e with pending := Table.put s g.exchanges.length e.pending }) fun _ => rfl
  · exact Carries.updateBeside begun p
      (f := fun e => { e with pending := Table.put s g.exchanges.length e.pending }) fun _ => rfl

theorem Answers.submit (answers : g.Answers) (p : ProtocolName) (r : Request) :
    (g.submit p r).1.Answers := by
  let q := (g.sequencer.next r.headers.operation).2
  let s := (g.sequencer.next r.headers.operation).1
  have drawn : ({ g with sequencer := q } : Gateway).Answers := answers.fewer (List.Subset.refl _) rfl
  unfold Gateway.submit
  split
  · exact answers
  · dsimp only
    split
    · exact drawn
    · rename_i sealed assigned
      have sent : Answers (send (({ g with sequencer := q } : Gateway).await p s).2 p
          (.toA (.request sealed))).1 := (drawn.await p s).send trivial trivial
      split
      · rename_i same
        rw [same] at sent
        exact sent
      · rename_i same
        rw [same] at sent
        exact (sent.release p _).conclude _ _

theorem Answers.move (answers : g.Answers) (orderly : g.traffic.Orderly) {m : Move}
    (proper : m.Proper) : (g.move m).Answers := by
  cases m with
  | register plugin =>
    unfold Gateway.move
    dsimp only
    split
    · rename_i g' registered
      exact answers.unmoved (unmoved_register registered)
    · exact answers
  | start => exact answers.unmoved g.unmoved_start
  | stop => exact answers.unmoved g.unmoved_stop
  | letGo => exact answers.unmoved (.of_queues rfl rfl fun _ => rfl)
  | become p plugin => exact answers.setPlugin p plugin
  | event e =>
    cases e with
    | submit p r => exact answers.submit p r
    | reply p m => exact Carries.reply answers trivial proper
    | notify p authority path content =>
      change Answers (g.notify p authority path content).1
      unfold notify
      split
      · dsimp only
        split
        · rename_i told
          exact (answers.setPlugin p _).reply trivial rfl
        · exact answers.setPlugin p _
      · exact answers
    | abandon k => exact answers.unmoved (g.unmoved_abandon k)
    | run i => exact answers.run orderly i
    | pass ms => exact answers.unmoved (.of_queues rfl rfl fun _ => rfl)

/-! What a move adds -/

/-- The place, among the hops under way, of the hop that a move dispatches. -/
def dispatched? (g : Gateway) : Move → Option Nat
  | .event (.run i) =>
    match g.tasks[i]? with
    | some (.forward _) => some ((g.tasks.take i).filterMap Task.hop?).length
    | _ => none
  | _ => none

/-- A move that dispatches a hop takes it out and sends one on at most, nearer to the end. -/
theorem move_dispatched (orderly : g.traffic.Orderly) (answers : g.Answers) {m : Move} {j : Nat}
    (place : g.dispatched? m = some j) :
    ∃ before hop after made, g.hops = before ++ hop :: after ∧ before.length = j ∧
      0 < hop.remaining ∧ (g.move m).hops = before ++ after ++ made ∧ made.length ≤ 1 ∧
      (∀ out ∈ made, out.remaining < hop.remaining) ∧
      (g.phase = .running → (g.move m).counters.dropped = g.counters.dropped) ∧
      (g.move m).counters.forwarded = g.counters.forwarded + 1 := by
  unfold dispatched? at place
  split at place
  · rename_i i
    split at place
    · rename_i hop found
      cases place
      obtain ⟨bound, here⟩ := List.getElem?_eq_some_iff.mp found
      let rest : Gateway := { g with tasks := g.tasks.eraseIdx i }
      -- The hops before and after are those of the tasks before and after.
      let before := (g.tasks.take i).filterMap Task.hop?
      let after := (g.tasks.drop (i + 1)).filterMap Task.hop?
      have split : g.hops = before ++ hop :: after := by
        have cut : g.tasks = g.tasks.take i ++ .forward hop :: g.tasks.drop (i + 1) := by
          rw [← here, List.getElem_cons_drop, List.take_append_drop]
        unfold hops
        rw [cut, List.filterMap_append, List.filterMap_cons]
        simp only [Task.hop?]
        rfl
      have left : rest.hops = before ++ after := by
        change (g.tasks.eraseIdx i).filterMap Task.hop? = _
        rw [List.eraseIdx_eq_take_drop_succ, List.filterMap_append]
      have lawful : Lawful g.keys hop := orderly.lawful hop (by
        change hop ∈ g.hops
        rw [split]
        simp)
      have own : hop.Answers := answers.tasks _ (List.mem_of_getElem? found)
      obtain ⟨⟨made, adds, nearer⟩, forwarded⟩ :=
        rest.dispatch_lawful orderly.token orderly.keyed lawful own
      have run : g.move (.event (.run i)) = rest.dispatch hop := by
        change g.runTask i = _
        unfold runTask
        rw [found]
        rfl
      rw [run]
      refine ⟨before, hop, after, made, split, rfl, ?_, left ▸ adds.hops, adds.alone, nearer,
        adds.dropped, forwarded⟩
      cases lawful <;> exact Nat.succ_pos _
    · cases place
  · cases place

theorem course_await (g : Gateway) (p : ProtocolName) (s : Sequence) :
    (g.await p s).2.course = g.course := by
  unfold await
  dsimp only
  rw [course_updateEntry]
  split
  · exact course_conclude _ _ _
  · rfl

theorem course_submit (g : Gateway) (p : ProtocolName) (r : Request) :
    (g.submit p r).1.course = { g.course with sequencer := (g.submit p r).1.sequencer } := by
  let q := (g.sequencer.next r.headers.operation).2
  let s := (g.sequencer.next r.headers.operation).1
  have drawn : ({ g with sequencer := q } : Gateway).course = { g.course with sequencer := q } := rfl
  unfold submit
  split
  · rfl
  · dsimp only
    split
    · rfl
    · rename_i sealed _
      have waits := (({ g with sequencer := q } : Gateway).course_await p s).trans drawn
      have sent := (course_send (({ g with sequencer := q } : Gateway).await p s).2 p
        (.toA (.request sealed))).trans waits
      split
      · rename_i same
        rw [same] at sent
        rw [sent]
        exact congrArg (fun q => { g.course with sequencer := q })
          (congrArg Course.sequencer sent).symm
      · rename_i g' _ same
        rw [same] at sent
        have course : ((g'.release p s).conclude g.exchanges.length .dropped).1.course =
            { g.course with sequencer := q } :=
          ((course_conclude _ _ _).trans (g'.course_updateEntry p _)).trans sent
        refine course.trans ?_
        exact congrArg (fun q => { g.course with sequencer := q })
          (congrArg Course.sequencer course).symm

theorem Unmoved.adds {g' : Gateway} (unmoved : Unmoved g g') :
    ∃ made, Adds g g' made ∧ g'.counters.forwarded = g.counters.forwarded := by
  have hops : g'.hops = g.hops := congrArg (List.filterMap Task.hop?) unmoved.tasks
  exact ⟨[], .none hops (congrArg Counters.dropped unmoved.counters),
    congrArg Counters.forwarded unmoved.counters⟩

theorem adds_nothing {g' : Gateway} (hops : g'.hops = g.hops)
    (dropped : g'.counters.dropped = g.counters.dropped)
    (forwarded : g'.counters.forwarded = g.counters.forwarded) :
    ∃ made, Adds g g' made ∧ g'.counters.forwarded = g.counters.forwarded :=
  ⟨[], .none hops dropped, forwarded⟩

theorem adds_submit (g : Gateway) (p : ProtocolName) (r : Request) :
    ∃ made, Adds g (g.submit p r).1 made ∧
      (g.submit p r).1.counters.forwarded = g.counters.forwarded := by
  have course := g.course_submit p r
  refine adds_nothing ?_ (congrArg Course.dropped course) (congrArg Course.forwarded course)
  have submits := g.submit_submits p r
  change (g.submit p r).1.traffic.hops = g.traffic.hops
  generalize g.traffic = t, (g.submit p r).1.traffic = t', g.submitNotes p r = notes,
    (g.submit p r).2 = outcome at submits ⊢
  cases submits <;> rfl

theorem adds_run {i : Nat} (other : g.dispatched? (.event (.run i)) = none) :
    ∃ made, Adds g (g.runTask i) made ∧ (g.runTask i).counters.forwarded = g.counters.forwarded := by
  unfold runTask
  unfold dispatched? at other
  cases found : g.tasks[i]? with
  | none => exact (Unmoved.refl g).adds
  | some t =>
    obtain ⟨before, after, split, erased⟩ := split_tasks found
    dsimp only
    rw [erased]
    have left (silent : t.hop? = none) :
        ({ g with tasks := before ++ after } : Gateway).hops = g.hops := by
      unfold hops
      dsimp only
      rw [split]
      simp [silent]
    cases t with
    | forward hop =>
      dsimp only at other
      rw [found] at other
      cases other
    | consume p =>
      obtain ⟨made, adds, forwarded⟩ :=
        ({ g with tasks := before ++ after } : Gateway).adds_consume p
      exact ⟨made, ⟨left rfl ▸ adds.hops, adds.alone, adds.dropped⟩, forwarded⟩
    | respond p messages =>
      have course := course_respond { g with tasks := before ++ after } p messages
      have hops := congrArg Traffic.hops
        (traffic_respond { g with tasks := before ++ after } p messages)
      exact adds_nothing (hops.trans (left rfl)) (congrArg Course.dropped course)
        (congrArg Course.forwarded course)

theorem move_other {m : Move} (other : g.dispatched? m = none) :
    ∃ made, Adds g (g.move m) made ∧ (g.move m).counters.forwarded = g.counters.forwarded := by
  cases m with
  | register plugin =>
    unfold Gateway.move
    dsimp only
    split
    · rename_i g' registered
      exact (unmoved_register registered).adds
    · exact (Unmoved.refl g).adds
  | start => exact g.unmoved_start.adds
  | stop => exact g.unmoved_stop.adds
  | letGo => exact adds_nothing rfl rfl rfl
  | become p plugin => exact adds_nothing (congrArg Traffic.hops (g.traffic_setPlugin p plugin)) rfl rfl
  | event e =>
    cases e with
    | submit p r => exact g.adds_submit p r
    | reply p m =>
      have course := g.course_reply p m
      exact adds_nothing (congrArg Traffic.hops (g.traffic_reply p m)) (congrArg Course.dropped course)
        (congrArg Course.forwarded course)
    | notify p authority path content =>
      have course := g.course_notify p authority path content
      exact adds_nothing (congrArg Traffic.hops (g.traffic_notify p authority path content))
        (congrArg Course.dropped course) (congrArg Course.forwarded course)
    | abandon k => exact (g.unmoved_abandon k).adds
    | pass ms => exact adds_nothing rfl rfl rfl
    | run i => exact adds_run other

end Gateway

end ProtocolGateway
