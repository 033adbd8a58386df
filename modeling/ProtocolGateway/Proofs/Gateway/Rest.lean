import Mathlib
import ProtocolGateway.Proofs.Gateway.Passage

/-!
A gateway comes to rest. Whatever is under way has so much effort left in it, and everything that
happens uses some of it up, or takes a push to its plugin or a consumer to its end.
-/

namespace ProtocolGateway

/-! Effort -/

/-- What a hop can still cost, with all that comes of it. -/
def Hop.effort (hop : Hop) : Nat :=
  match hop.source, hop.target with
  | .manager, .input => 15
  | .input, .interconnection => 14
  | .interconnection, .manager => 13
  | .manager, .interconnection => 3
  | .interconnection, .output => 2
  | .output, .manager => 1
  | _, _ => 0

def Parcel.effort : Parcel Outbound Inbound → Nat
  | .toA (.request _) => 16
  | .toB (.request _) => 12
  | .toA (.answer _) => 4
  | .toB (.push _) => 0

def Task.effort : Task → Nat
  | .forward hop => hop.effort
  | .respond _ messages => 1 + 5 * messages.length
  | .consume _ => 0

def Task.chores : Task → Nat
  | .consume _ => 1
  | .forward _ | .respond .. => 0

theorem MemoryTarget.answer_length (t : MemoryTarget) (r : Request) : (t.answer r).2.length ≤ 2 := by
  unfold answer
  dsimp only
  split
  case h_3 => split <;> simp
  all_goals simp

theorem Plugin.handleRequest_length (plugin : Plugin) (r : Request) :
    (plugin.handleRequest r).2.length ≤ 2 := by
  cases plugin with
  | target t =>
    change (t.handleRequest r).2.length ≤ 2
    unfold MemoryTarget.handleRequest
    dsimp only
    split
    · exact MemoryTarget.answer_length _ r
    · exact Nat.zero_le 2
  | origin o | scripted s => exact Nat.zero_le 2

namespace Gateway

open Relation (ReflTransGen)

/-! Burdens -/

def burden (a : Task → Nat) (b : Parcel Outbound Inbound → Nat) (g : Gateway) : Nat :=
  total a g.tasks + total (fun e => total b e.2.sink.queue) g.plugins

def effort (g : Gateway) : Nat := g.burden Task.effort Parcel.effort

/-- Values in sinks and consumers that are awake. -/
def chores (g : Gateway) : Nat := g.burden Task.chores fun _ => 1

variable {a : Task → Nat} {b : Parcel Outbound Inbound → Nat} {g : Gateway}

theorem burden_updateBeside (p : ProtocolName) {f : PluginEntry → PluginEntry}
    (same : ∀ e, (f e).sink = e.sink) : burden a b (g.updateEntry p f) = burden a b g := by
  have plugins : total (fun e => total b e.2.sink.queue) (Table.update g.plugins p f) =
      total (fun e => total b e.2.sink.queue) g.plugins := by
    unfold Table.update
    rw [total_map]
    apply total_congr
    intro e _
    split
    · exact congrArg (fun s : PluginSink => total b s.queue) (same e.2)
    · rfl
  exact congrArg (total a g.tasks + ·) plugins

theorem burden_updateSink (names : g.course.names.Nodup) {p : ProtocolName} {e : PluginEntry}
    (found : g.entry? p = some e) (sink : PluginSink) :
    burden a b (g.updateEntry p fun e => { e with sink := sink }) + total b e.sink.queue =
      burden a b g + total b sink.queue := by
  let waiting (e : ProtocolName × PluginEntry) : Nat := total b e.2.sink.queue
  let replaced (e : PluginEntry) : PluginEntry := { e with sink := sink }
  have moved : total waiting (Table.update g.plugins p replaced) + total b e.sink.queue =
      total waiting g.plugins + total b sink.queue := Table.total_update waiting names found replaced
  change total a g.tasks + total waiting (Table.update g.plugins p replaced) + _ =
    total a g.tasks + total waiting g.plugins + _
  omega

theorem burden_enqueue (t : Task) : burden a b (g.enqueue t) = burden a b g + a t := by
  let queues := total (fun e => total b e.2.sink.queue) g.plugins
  change total a (g.tasks ++ [t]) + queues = total a g.tasks + queues + a t
  rw [total_append]
  simp only [total_cons, total_nil]
  omega

theorem burden_enqueueFirst (t : Task) : burden a b (g.enqueueFirst t) = burden a b g + a t := by
  let queues := total (fun e => total b e.2.sink.queue) g.plugins
  change a t + total a g.tasks + queues = total a g.tasks + queues + a t
  omega

theorem burden_forward (hop : Hop) : burden a b (g.forward hop) ≤ burden a b g + a (.forward hop) := by
  unfold forward
  split
  · exact (burden_enqueue _).le
  · exact Nat.le_add_right _ _

theorem burden_send (names : g.course.names.Nodup) (p : ProtocolName)
    (parcel : Parcel Outbound Inbound) :
    burden a b (g.send p parcel).1 ≤ burden a b g + b parcel + a (.consume p) := by
  rcases g.send_cases p parcel with ⟨cause, refused⟩ | ⟨e, sink, found, offered, sent⟩
  · rw [refused]
    exact Nat.le_add_right_of_le (Nat.le_add_right _ _)
  · have put := burden_updateSink (a := a) (b := b) names found sink
    rw [Sink.offer_queue offered, total_append] at put
    simp only [total_cons, total_nil] at put
    rcases sent with ⟨_, sent⟩ | sent
    · rw [sent]
      dsimp only
      omega
    · rw [sent]
      dsimp only
      rw [burden_enqueue]
      omega

theorem burden_conclude (k : Ticket) (x : Resolution) :
    burden a b (g.conclude k x).1 = burden a b g := by
  unfold conclude
  split <;> rfl

theorem burden_resolve (p : ProtocolName) (s : Sequence) (m : Message) :
    burden a b (g.resolve p s m).1 = burden a b g := by
  unfold resolve
  split
  · rfl
  · rename_i k _
    have concluded : burden a b ((g.release p s).conclude k (resolutionOf m s)).1 = burden a b g :=
      (burden_conclude k _).trans (burden_updateBeside p fun _ => rfl)
    dsimp only
    split
    · split
      · exact concluded
      · exact concluded
    · exact concluded

/-! What the ends cost -/

theorem effort_acts {Q : ProtocolName → Parcel Outbound Inbound → Prop} {g g' : Gateway}
    (names : g.course.names.Nodup) (free : ∀ p x, Q p x → x.effort = 0)
    (acts : ReflTransGen (Act Q) g g') : g'.effort ≤ g.effort := by
  induction acts with
  | refl => exact Nat.le_refl _
  | @tail b c before act ih =>
    have still : b.course.names.Nodup := (course_acts before).symm ▸ names
    refine le_trans ?_ ih
    cases act with
    | @put p x good =>
      have sent : (b.send p x).1.effort ≤ b.effort + x.effort + 0 := burden_send still p x
      rwa [free p x good] at sent
    | resolve p s m => exact (burden_resolve p s m).le

theorem effort_answerAll (names : g.course.names.Nodup) (m : Message) (l : ReplyTo) :
    (l.foldl (fun g r => g.answerProtocol m r.1 r.2) g).effort ≤ g.effort :=
  effort_acts (Q := fun _ x => x.effort = 0) names (fun _ _ free => free)
    (acts_answerAll (fun _ _ _ => rfl) l)

theorem effort_follow (r : StageResult) :
    (g.follow r).effort ≤ g.effort + total Hop.effort (Traffic.sent r).toList := by
  match r with
  | .ok none => exact Nat.le_refl _
  | .ok (some hop) => exact burden_forward hop
  | .error (.fault _) => exact Nat.le_refl _
  | .error .clockOverflow => exact Nat.le_refl _

theorem effort_deliver (names : g.course.names.Nodup) (r : Request) (p target : ProtocolName) :
    ∃ g' out, g.deliver { g.keys.routed r p target with hops := 3 } = (g', .ok out) ∧
      g'.effort + total Hop.effort out.toList < g.effort + 13 := by
  rcases g.deliver_routed r p target with handed | ⟨detail, handed⟩
  · refine ⟨_, none, handed, ?_⟩
    have sent : (g.send target (.toB (.request r))).1.effort ≤ g.effort + 12 + 0 :=
      burden_send names target _
    exact Nat.lt_of_le_of_lt sent (Nat.add_lt_add_left (by decide : 12 < 13) g.effort)
  · exact ⟨_, _, handed, Nat.add_lt_add_left (by decide : 3 < 13) g.effort⟩

theorem effort_dispatch (names : g.course.names.Nodup)
    (token : g.interconnection.token = g.keys.interconnection)
    (keyed : g.interconnection.subscriptions.Keyed) {hop : Hop} (lawful : Lawful g.keys hop) :
    (g.dispatch hop).effort < g.effort + hop.effort := by
  have passes {g' : Gateway} {r : StageResult}
      (received : g.countForwarded.receiveAt hop
        { hop.envelope with hops := hop.envelope.hops + 1 } = (g', r))
      (less : g'.effort + total Hop.effort (Traffic.sent r).toList < g.effort + hop.effort) :
      (g.dispatch hop).effort < g.effort + hop.effort := by
    rw [dispatch_received lawful received]
    exact (effort_follow r).trans_lt less
  -- One case per place on the way; the numbers are the efforts of the hops before and after it.
  cases lawful with
  | entering r p sequenced =>
    refine passes (congrArg (Prod.mk g.countForwarded)
      (InputStage.receive_asking g.keys r p 1 sequenced)) ?_
    exact Nat.add_lt_add_left (by decide : 14 < 15) g.effort
  | admitted r p sequenced =>
    obtain ⟨ic, out, crossing, takes⟩ :=
      Interconnection.onRequest_takes (k := g.keys) token keyed g.instant p sequenced
    refine passes (receiveAt_interconnection g.countForwarded .input crossing
      (g.keys.asking r p 1)) ?_
    refine Nat.add_lt_add_left (m := 14) ?_ g.effort
    cases takes with
    | refused | cached | acknowledged => exact (by decide : 2 < 14)
    | enrolled _ _ _ _ _ _ _ _ _ next =>
      rcases next with rfl | rfl
      · exact (by decide : 0 < 14)
      · exact (by decide : 13 < 14)
  | arriving m p =>
    obtain ⟨ic, result, crossing, hears⟩ :=
      Interconnection.onAnswer_hears (k := g.keys) token keyed g.instant m p
    refine passes (receiveAt_interconnection g.countForwarded .manager crossing
      (g.keys.wrap m p)) ?_
    refine Nat.add_lt_add_left (m := 3) ?_ g.effort
    cases hears with
    | unreadable | unmatched | brokenOff => exact (by decide : 0 < 3)
    | matched => exact (by decide : 2 < 3)
  | routed r p target =>
    obtain ⟨g', out, handed, less⟩ := effort_deliver (g := g.countForwarded) names r p target
    exact passes handed less
  | answering m p l count answer receivers early =>
    refine passes (congrArg (Prod.mk g.countForwarded)
      (OutputStage.receive_answering g.keys m p l (count + 1) answer receivers)) ?_
    exact Nat.add_lt_add_left (by decide : 1 < 2) g.effort
  | leaving m p l count answer receivers early =>
    refine passes (g.countForwarded.fanOut_answering m p l (count + 2)) ?_
    exact Nat.add_lt_add_of_le_of_lt (effort_answerAll (g := g.countForwarded) names m l)
      (by decide : 0 < 1)

theorem effort_respond (names : g.course.names.Nodup) (p : ProtocolName) (messages : List Message) :
    (g.respond p messages).effort < g.effort + (1 + 5 * messages.length) := by
  rcases g.respond_cases p messages with idle | ⟨m, rest, rfl, given⟩
  · rw [idle]
    omega
  · have sent : (g.send p (.toA (.answer m))).1.effort ≤ g.effort + 4 := burden_send names p _
    rw [List.length_cons]
    rcases given with last | more
    · rw [last]
      omega
    · have goes : ((g.send p (.toA (.answer m))).1.enqueueFirst (.respond p rest)).effort =
          (g.send p (.toA (.answer m))).1.effort + (1 + 5 * rest.length) := burden_enqueueFirst _
      rw [more, goes]
      omega

/-! Values that leave their sinks -/

theorem burden_setPlugin (p : ProtocolName) (plugin : Plugin) :
    burden a b (g.setPlugin p plugin) = burden a b g := burden_updateBeside p fun _ => rfl

theorem effort_handOver (p : ProtocolName) (parcel : Parcel Outbound Inbound) :
    (g.handOver p parcel).effort < g.effort + parcel.effort ∨
      parcel.effort = 0 ∧ (g.handOver p parcel).effort = g.effort ∧
        (g.handOver p parcel).chores = g.chores := by
  have handed := g.handOver_cases p parcel
  generalize g.handOver p parcel = g' at handed ⊢
  -- Each value weighs more than all that comes of it.
  cases handed with
  | lost inbound gone =>
    cases inbound with
    | request r => exact Or.inl (Nat.lt_add_of_pos_right (by decide : 0 < 16))
    | answer m => exact Or.inl (Nat.lt_add_of_pos_right (by decide : 0 < 4))
  | asks r there =>
    exact Or.inl ((burden_forward _).trans_lt (Nat.add_lt_add_left (by decide : 15 < 16) _))
  | answers m there =>
    exact Or.inl ((burden_forward _).trans_lt (Nat.add_lt_add_left (by decide : 3 < 4) _))
  | unheard outbound absent =>
    cases outbound with
    | request r => exact Or.inl (Nat.lt_add_of_pos_right (by decide : 0 < 12))
    | push r => exact Or.inr ⟨rfl, rfl, rfl⟩
  | handled e r found silent =>
    have placed : (g.setPlugin p (e.plugin.handleRequest r).1).effort = g.effort :=
      burden_setPlugin p _
    rw [placed]
    exact Or.inl (Nat.lt_add_of_pos_right (by decide : 0 < 12))
  | responds e r found =>
    have few := e.plugin.handleRequest_length r
    have more : ((g.setPlugin p (e.plugin.handleRequest r).1).enqueue
        (.respond p (e.plugin.handleRequest r).2)).effort =
        g.effort + (1 + 5 * (e.plugin.handleRequest r).2.length) :=
      (burden_enqueue _).trans (congrArg (· + _) (burden_setPlugin p _))
    left
    change effort _ < g.effort + 12
    rw [more]
    omega
  | pushed e r found => exact Or.inr ⟨rfl, burden_setPlugin p _, burden_setPlugin p _⟩

theorem effort_consume (names : g.course.names.Nodup) (p : ProtocolName) :
    (g.consume p).effort < g.effort ∨
      (g.consume p).effort = g.effort ∧ (g.consume p).chores < g.chores + 1 := by
  rcases g.consume_cases p with idle | ⟨e, parcel, sink, found, next, given⟩
  · rw [idle]
    exact Or.inr ⟨rfl, Nat.lt_succ_self _⟩
  · have queue := Sink.next_queue next
    obtain ⟨left, taken⟩ : ∃ left, g.updateEntry p (fun e => { e with sink := sink }) = left := ⟨_, rfl⟩
    have effort : left.effort + parcel.effort = g.effort := by
      have moved : left.effort + total Parcel.effort e.sink.queue =
          g.effort + total Parcel.effort sink.queue := taken ▸ burden_updateSink names found sink
      rw [queue, total_cons] at moved
      omega
    have chores : left.chores + 1 = g.chores := by
      have moved : left.chores + total (fun _ => 1) e.sink.queue =
          g.chores + total (fun _ => 1) sink.queue := taken ▸ burden_updateSink names found sink
      rw [queue, total_cons] at moved
      omega
    -- The consumer goes on while values are left.
    have awake : ((left.handOver p parcel).enqueueFirst (.consume p)).effort =
          (left.handOver p parcel).effort ∧
        ((left.handOver p parcel).enqueueFirst (.consume p)).chores =
          (left.handOver p parcel).chores + 1 :=
      ⟨burden_enqueueFirst _, burden_enqueueFirst _⟩
    dsimp only at given
    rw [taken] at given
    rcases left.effort_handOver p parcel with less | ⟨none, same, same'⟩
    · left
      rcases given with last | more
      · rw [last]
        exact less.trans_eq effort
      · rw [more, awake.1]
        exact less.trans_eq effort
    · right
      rcases given with last | more
      · rw [last]
        exact ⟨by omega, by omega⟩
      · rw [more, awake.1, awake.2]
        exact ⟨by omega, by omega⟩

/-! Names -/

theorem names_handOver (p : ProtocolName) (parcel : Parcel Outbound Inbound) :
    (g.handOver p parcel).course.names = g.course.names := by
  have set (plugin : Plugin) : (g.setPlugin p plugin).course.names = g.course.names :=
    congrArg Course.names (g.course_updateEntry p _)
  have handed := g.handOver_cases p parcel
  generalize g.handOver p parcel = g' at handed ⊢
  cases handed with
  | lost | unheard => rfl
  | asks | answers =>
    unfold forward
    split <;> rfl
  | handled | pushed | responds => exact set _

theorem names_consume (p : ProtocolName) : (g.consume p).course.names = g.course.names := by
  rcases g.consume_cases p with idle | ⟨e, x, sink, _, _, given⟩
  · rw [idle]
  · have handed := (names_handOver (g := g.updateEntry p fun e => { e with sink := sink }) p x).trans
      (congrArg Course.names (g.course_updateEntry p _))
    rcases given with last | more
    · rw [last]
      exact handed
    · rw [more]
      exact handed

theorem names_receiveAt (hop : Hop) (e : Envelope) :
    (g.receiveAt hop e).1.course.names = g.course.names := by
  rcases g.receiveAt_cases hop e with ⟨ic, stage⟩ | acts
  · rw [stage]
    rfl
  · exact congrArg Course.names (course_acts acts)

theorem names_dispatch (hop : Hop) : (g.dispatch hop).course.names = g.course.names := by
  unfold dispatch
  split
  · rfl
  · rename_i e _
    have received : (g.countForwarded.receiveAt hop e).1.course.names = g.course.names :=
      names_receiveAt hop e
    generalize g.countForwarded.receiveAt hop e = result at received ⊢
    match result with
    | (_, .ok none) | (_, .error (.fault _)) | (_, .error .clockOverflow) => exact received
    | (g', .ok (some out)) =>
      change (g'.forward out).course.names = _
      unfold forward
      split <;> exact received

theorem names_runTask (i : Nat) : (g.runTask i).course.names = g.course.names := by
  unfold runTask
  split
  · rfl
  · rename_i t _
    cases t with
    | consume p => exact names_consume (g := { g with tasks := g.tasks.eraseIdx i }) p
    | forward hop => exact names_dispatch (g := { g with tasks := g.tasks.eraseIdx i }) hop
    | respond p messages =>
      exact congrArg Course.names (course_respond { g with tasks := g.tasks.eraseIdx i } p messages)

/-! Rest -/

structure Lacks (g : Gateway) (t : Task) (left : Gateway) : Prop where
  whole : left = { g with tasks := left.tasks }
  member : t ∈ g.tasks
  fewer : left.tasks ⊆ g.tasks
  others : ∀ t' ∈ g.tasks, t' = t ∨ t' ∈ left.tasks
  burden : ∀ a b, burden a b left + a t = burden a b g

theorem exists_lacks {i : Nat} {t : Task} (found : g.tasks[i]? = some t) :
    ∃ left, g.runTask i = left.perform t ∧ g.Lacks t left := by
  obtain ⟨before, after, split, erased⟩ := split_tasks found
  refine ⟨{ g with tasks := before ++ after }, ?_, rfl, ?_, ?_, ?_, fun a b => ?_⟩
  · unfold runTask
    rw [found]
    dsimp only
    rw [erased]
  · rw [split]
    simp
  · rw [split]
    exact ((List.sublist_cons_self t after).append_left before).subset
  · intro t' member
    rw [split] at member
    simp only [List.mem_append, List.mem_cons] at member ⊢
    tauto
  · let queues := total (fun e => total b e.2.sink.queue) g.plugins
    change total a (before ++ after) + queues + a t = total a g.tasks + queues
    rw [split, total_append, total_append, total_cons]
    omega

theorem mem_hops {hop : Hop} (member : .forward hop ∈ g.tasks) : hop ∈ g.traffic.hops :=
  List.mem_filterMap.mpr ⟨_, member, rfl⟩

/-- A task that happens uses up effort, or a chore is done. -/
theorem runTask_lighter (orderly : g.traffic.Orderly) (names : g.course.names.Nodup) {i : Nat}
    (bound : i < g.tasks.length) :
    (g.runTask i).effort < g.effort ∨
      (g.runTask i).effort = g.effort ∧ (g.runTask i).chores < g.chores := by
  obtain ⟨left, run, lacks⟩ := exists_lacks (List.getElem?_eq_getElem bound)
  have member := lacks.member
  have effort : left.effort + g.tasks[i].effort = g.effort := lacks.burden _ _
  have chores : left.chores + g.tasks[i].chores = g.chores := lacks.burden _ _
  have names : left.course.names.Nodup := by
    rw [lacks.whole]
    exact names
  rw [run]
  generalize g.tasks[i] = t at member effort chores ⊢
  cases t with
  | consume p =>
    have effort : left.effort = g.effort := effort
    have chores : left.chores + 1 = g.chores := chores
    rw [← effort, ← chores]
    exact effort_consume names p
  | forward hop =>
    have lawful : Lawful left.keys hop := by
      rw [lacks.whole]
      exact orderly.lawful hop (mem_hops member)
    have token : left.interconnection.token = left.keys.interconnection := by
      rw [lacks.whole]
      exact orderly.token
    have keyed : left.interconnection.subscriptions.Keyed := by
      rw [lacks.whole]
      exact orderly.keyed
    exact Or.inl ((effort_dispatch names token keyed lawful).trans_eq effort)
  | respond p messages => exact Or.inl ((effort_respond names p messages).trans_eq effort)

/-- Whatever happens first, the gateway comes to rest in the end, and a property holds then. -/
inductive Settles (P : Gateway → Prop) : Gateway → Prop where
  | rest {g : Gateway} (still : g.tasks = []) (holds : P g) : Settles P g
  | step {g : Gateway} (busy : g.tasks ≠ []) (next : ∀ i < g.tasks.length, Settles P (g.runTask i)) :
      Settles P g

theorem settles_of_kept {P Q : Gateway → Prop}
    (kept : ∀ g i, Q g → i < g.tasks.length → Q (g.runTask i))
    (rest : ∀ g, Q g → g.tasks = [] → P g) {g : Gateway} (orderly : g.traffic.Orderly)
    (names : g.course.names.Nodup) (holds : Q g) : g.Settles P := by
  by_cases still : g.tasks = []
  · exact .rest still (rest g holds still)
  · refine .step still fun i bound => ?_
    have lighter := runTask_lighter orderly names bound
    have run : (g.runTask i).traffic.Orderly :=
      orderly.step (g.step_move orderly (.event (.run i)))
    have same : (g.runTask i).course.names = g.course.names := names_runTask i
    exact settles_of_kept kept rest run (same ▸ names) (kept g i holds bound)
  termination_by (g.effort, g.chores)
  decreasing_by
    rcases lighter with less | ⟨same, less⟩
    · exact Prod.Lex.left _ _ less
    · rw [same]
      exact Prod.Lex.right _ less

theorem Settles.of_runFirst {P : Gateway → Prop} {g : Gateway} (settles : g.Settles P) (n : Nat)
    (still : (runFirst n g).tasks = []) : P (runFirst n g) := by
  induction settles generalizing n with
  | rest none holds =>
    cases n with
    | zero => exact holds
    | succ n =>
      rw [runFirst, none]
      exact holds
  | step busy next ih =>
    rename_i g
    cases n with
    | zero => exact absurd still busy
    | succ n =>
      have more : g.tasks.isEmpty = false := by simpa using busy
      rw [runFirst, more] at still ⊢
      exact ih 0 (List.length_pos_iff.mpr busy) n still

end Gateway

end ProtocolGateway
