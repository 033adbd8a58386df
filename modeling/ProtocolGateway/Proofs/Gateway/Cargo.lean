import Mathlib
import ProtocolGateway.Proofs.Gateway.Moving

/-!
What is under way: the tasks that may happen next and the values that wait in sinks. For every
operation at the ends of the pipeline, what it adds to either and what it leaves as it is.
-/

namespace ProtocolGateway

namespace Gateway

open Relation (ReflTransGen)

/-! The course -/

/-- What the ends of the pipeline never touch. They change plugins, exchanges and tasks, and count the
answers that nobody waited for. -/
structure Course where
  config : ManagerConfig
  phase : ManagerPhase
  keys : Keyring
  sequencer : Sequencer
  interconnection : Interconnection
  now : Nat
  forwarded : Nat
  dropped : Nat
  faults : Nat
  /-- The names under which plugins are registered. -/
  names : List ProtocolName

def course (g : Gateway) : Course :=
  { config := g.config, phase := g.phase, keys := g.keys, sequencer := g.sequencer
    interconnection := g.interconnection, now := g.now, forwarded := g.counters.forwarded
    dropped := g.counters.dropped, faults := g.counters.faults, names := Table.keys g.plugins }

theorem course_updateEntry (g : Gateway) (p : ProtocolName) (f : PluginEntry → PluginEntry) :
    (g.updateEntry p f).course = g.course := by
  have names : Table.keys (Table.update g.plugins p f) = Table.keys g.plugins := by
    unfold Table.keys Table.update
    rw [List.map_map]
    apply List.map_congr_left
    intro e _
    dsimp only [Function.comp_apply]
    split <;> rfl
  change { g.course with names := Table.keys (Table.update g.plugins p f) } = g.course
  rw [names]
  rfl

theorem course_send (g : Gateway) (p : ProtocolName) (parcel : Parcel Outbound Inbound) :
    (g.send p parcel).1.course = g.course := by
  rcases g.send_cases p parcel with ⟨cause, refused⟩ | ⟨e, sink, _, _, sent⟩
  · rw [refused]
  · have put := g.course_updateEntry p fun e => { e with sink := sink }
    rcases sent with ⟨_, sent⟩ | sent <;> rw [sent] <;> exact put

theorem course_conclude (g : Gateway) (k : Ticket) (x : Resolution) :
    (g.conclude k x).1.course = g.course := by
  unfold conclude
  split <;> rfl

theorem course_resolve (g : Gateway) (p : ProtocolName) (s : Sequence) (m : Message) :
    (g.resolve p s m).1.course = g.course := by
  unfold resolve
  split
  · rfl
  · rename_i k _
    have concluded : ((g.release p s).conclude k (resolutionOf m s)).1.course = g.course :=
      (course_conclude _ k _).trans (g.course_updateEntry p _)
    dsimp only
    split
    · split
      · exact concluded
      · exact concluded
    · exact concluded

theorem course_acts {Q : ProtocolName → Parcel Outbound Inbound → Prop} {g g' : Gateway}
    (acts : ReflTransGen (Act Q) g g') : g'.course = g.course := by
  induction acts with
  | refl => rfl
  | tail _ act ih =>
    cases act with
    | put good => exact (course_send _ _ _).trans ih
    | resolve p s m => exact (course_resolve _ p s m).trans ih

theorem course_answerAll (g : Gateway) (m : Message) (l : ReplyTo) :
    (l.foldl (fun g r => g.answerProtocol m r.1 r.2) g).course = g.course :=
  course_acts (acts_answerAll (Q := fun _ _ => True) (fun _ _ _ => trivial) l)

theorem course_reply (g : Gateway) (p : ProtocolName) (m : Message) :
    (g.reply p m).1.course = g.course := by
  rw [reply_eq]
  exact g.course_send p _

theorem course_respond (g : Gateway) (p : ProtocolName) (messages : List Message) :
    (g.respond p messages).course = g.course := by
  rcases g.respond_cases p messages with idle | ⟨m, rest, _, sent | more⟩
  · rw [idle]
  · rw [sent]
    exact g.course_send p _
  · rw [more]
    exact g.course_send p _

theorem course_notify (g : Gateway) (p : ProtocolName) (authority path : String) (content : Octets) :
    (g.notify p authority path content).1.course = g.course := by
  unfold notify
  split
  · rename_i t _
    have placed := g.course_updateEntry p fun e =>
      { e with plugin := .target (t.notify authority path content).1 }
    dsimp only
    split
    · exact (course_reply _ p _).trans placed
    · exact placed
  · rfl

/-! Cargo -/

structure Carries (T : Task → Prop) (Q : ProtocolName → Parcel Outbound Inbound → Prop)
    (g : Gateway) : Prop where
  tasks : ∀ t ∈ g.tasks, T t
  queues : ∀ p e, g.entry? p = some e → ∀ x ∈ e.sink.queue, Q p x

namespace Carries

variable {T : Task → Prop} {Q : ProtocolName → Parcel Outbound Inbound → Prop} {g g' : Gateway}

theorem fewer (carries : Carries T Q g) (tasks : g'.tasks ⊆ g.tasks) (plugins : g'.plugins = g.plugins) :
    Carries T Q g' where
  tasks t member := carries.tasks t (tasks member)
  queues p e found := by
    unfold entry? at found
    rw [plugins] at found
    exact carries.queues p e found

theorem updateEntry (carries : Carries T Q g) (p : ProtocolName) {f : PluginEntry → PluginEntry}
    (good : ∀ e, g.entry? p = some e → ∀ x ∈ (f e).sink.queue, Q p x) :
    Carries T Q (g.updateEntry p f) where
  tasks := carries.tasks
  queues q e found x member := by
    rw [entry?_updateEntry] at found
    split at found
    · rename_i same
      subst same
      obtain ⟨e', found', rfl⟩ := Option.map_eq_some_iff.mp found
      exact good e' found' x member
    · exact carries.queues q e found x member

theorem updateBeside (carries : Carries T Q g) (p : ProtocolName) {f : PluginEntry → PluginEntry}
    (same : ∀ e, (f e).sink = e.sink) : Carries T Q (g.updateEntry p f) :=
  carries.updateEntry p fun e found x member => carries.queues p e found x (same e ▸ member)

theorem setPlugin (carries : Carries T Q g) (p : ProtocolName) (plugin : Plugin) :
    Carries T Q (g.setPlugin p plugin) := carries.updateBeside p fun _ => rfl

theorem enqueue (carries : Carries T Q g) {t : Task} (good : T t) : Carries T Q (g.enqueue t) where
  tasks u member := by
    rcases List.mem_append.mp member with old | new
    · exact carries.tasks u old
    · rw [List.mem_singleton.mp new]
      exact good
  queues := carries.queues

theorem enqueueFirst (carries : Carries T Q g) {t : Task} (good : T t) :
    Carries T Q (g.enqueueFirst t) where
  tasks u member := by
    rcases List.mem_cons.mp member with rfl | old
    · exact good
    · exact carries.tasks u old
  queues := carries.queues

theorem forward (carries : Carries T Q g) {hop : Hop} (good : T (.forward hop)) :
    Carries T Q (g.forward hop) := by
  unfold Gateway.forward
  split
  · exact carries.enqueue good
  · exact ⟨carries.tasks, carries.queues⟩

theorem send (carries : Carries T Q g) {p : ProtocolName} {parcel : Parcel Outbound Inbound}
    (wakes : T (.consume p)) (good : Q p parcel) : Carries T Q (g.send p parcel).1 := by
  rcases g.send_cases p parcel with ⟨cause, refused⟩ | ⟨e, sink, found, offered, sent⟩
  · rw [refused]
    exact carries
  · have put : Carries T Q (g.updateEntry p fun e => { e with sink := sink }) := by
      refine carries.updateEntry p fun _ _ x member => ?_
      rw [Sink.offer_queue offered] at member
      rcases List.mem_append.mp member with old | new
      · exact carries.queues p e found x old
      · rw [List.mem_singleton.mp new]
        exact good
    rcases sent with ⟨_, sent⟩ | sent
    · rw [sent]
      exact put
    · rw [sent]
      exact put.enqueue wakes

theorem release (carries : Carries T Q g) (p : ProtocolName) (s : Sequence) :
    Carries T Q (g.release p s) := carries.updateBeside p fun _ => rfl

theorem conclude (carries : Carries T Q g) (k : Ticket) (x : Resolution) :
    Carries T Q (g.conclude k x).1 := by
  unfold Gateway.conclude
  split
  · exact ⟨carries.tasks, carries.queues⟩
  · exact carries

theorem resolve (carries : Carries T Q g) (p : ProtocolName) (s : Sequence) (m : Message) :
    Carries T Q (g.resolve p s m).1 := by
  unfold Gateway.resolve
  split
  · exact ⟨carries.tasks, carries.queues⟩
  · rename_i k _
    have concluded := (carries.release p s).conclude k (resolutionOf m s)
    dsimp only
    split
    · split
      · exact concluded
      · exact ⟨concluded.tasks, concluded.queues⟩
    · exact concluded

theorem acts (carries : Carries T Q g) (wakes : ∀ p, T (.consume p))
    (acts : ReflTransGen (Act Q) g g') : Carries T Q g' := by
  induction acts with
  | refl => exact carries
  | tail _ act ih =>
    cases act with
    | put good => exact ih.send (wakes _) good
    | resolve p s m => exact ih.resolve p s m

variable {m : Message}

theorem reply (carries : Carries T Q g) {p : ProtocolName} (wakes : T (.consume p))
    (good : Q p (.toA (.answer m))) : Carries T Q (g.reply p m).1 := by
  rw [reply_eq]
  exact carries.send wakes good

theorem respond (carries : Carries T Q g) {p : ProtocolName} {messages : List Message}
    (wakes : T (.consume p)) (good : ∀ m ∈ messages, Q p (.toA (.answer m)))
    (goes : ∀ m rest, messages = m :: rest → T (.respond p rest)) :
    Carries T Q (g.respond p messages) := by
  rcases g.respond_cases p messages with idle | ⟨m, rest, rfl, given⟩
  · rw [idle]
    exact carries
  · have sent : Carries T Q (g.send p (.toA (.answer m))).1 :=
      carries.send wakes (good m List.mem_cons_self)
    rcases given with last | more
    · rw [last]
      exact sent
    · rw [more]
      exact sent.enqueueFirst (goes m rest rfl)

theorem consume (carries : Carries T Q g) {p : ProtocolName} (wakes : T (.consume p))
    (request : ∀ r, Q p (.toA (.request r)) →
      T (.forward ⟨.manager, .input, g.keys.wrap (.request r) p⟩))
    (answer : ∀ m, Q p (.toA (.answer m)) →
      T (.forward ⟨.manager, .interconnection, g.keys.wrap m p⟩))
    (handled : ∀ e r, g.entry? p = some e → Q p (.toB (.request r)) →
      T (.respond p (e.plugin.handleRequest r).2)) :
    Carries T Q (g.consume p) := by
  rcases g.consume_cases p with idle | ⟨e, parcel, sink, found, next, given⟩
  · rw [idle]
    exact carries
  · have queue := Sink.next_queue next
    have here : Q p parcel := carries.queues p e found parcel (queue ▸ List.mem_cons_self)
    -- What is left in the sink was in it before.
    have left : Carries T Q (g.updateEntry p fun e => { e with sink := sink }) :=
      carries.updateEntry p fun _ _ x member =>
        carries.queues p e found x (queue ▸ List.mem_cons_of_mem parcel member)
    have goes : Carries T Q ((g.updateEntry p fun e => { e with sink := sink }).handOver p parcel) := by
      have handed := handOver_cases (g.updateEntry p fun e => { e with sink := sink }) p parcel
      generalize handOver _ p parcel = after at handed ⊢
      cases handed with
      | lost | unheard => exact left
      | asks r there => exact left.forward (request r here)
      | answers m there => exact left.forward (answer m here)
      | handled | pushed => exact left.setPlugin p _
      | responds e' r found' =>
        rw [entry?_updateEntry, if_pos rfl] at found'
        obtain ⟨e'', again, rfl⟩ := Option.map_eq_some_iff.mp found'
        exact (left.setPlugin p _).enqueue (handled e'' r again here)
    rcases given with last | more
    · rw [last]
      exact goes
    · rw [more]
      exact goes.enqueueFirst wakes

/-- Only the manager's own ends put anything into sinks. -/
theorem receiveAt (carries : Carries T Q g) {hop : Hop} {e : Envelope} (wakes : ∀ p, T (.consume p))
    (handed : ∀ r q, hop.source = .interconnection → readDelivery g.keys.main e = .ok (r, q) →
      Q q (.toB (.request r)))
    (pushed : ∀ p r, hop.source = .output → e.content = .reply r → Q p (.toB (.push r))) :
    Carries T Q (g.receiveAt hop e).1 := by
  rcases receiveAt_acts hop e handed pushed with ⟨ic, stage⟩ | acts
  · rw [stage]
    exact ⟨carries.tasks, carries.queues⟩
  · exact carries.acts wakes acts

theorem follow (carries : Carries T Q g) {r : StageResult}
    (sent : ∀ hop, r = .ok (some hop) → T (.forward hop)) : Carries T Q (g.follow r) := by
  match r with
  | .ok none => exact carries
  | .ok (some hop) => exact carries.forward (sent hop rfl)
  | .error (.fault _) => exact ⟨carries.tasks, carries.queues⟩
  | .error .clockOverflow => exact carries

end Carries

end Gateway

end ProtocolGateway
