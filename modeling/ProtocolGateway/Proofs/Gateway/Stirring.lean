import Mathlib
import ProtocolGateway.Proofs.Gateway.Rest

/-!
What the ends of the pipeline leave as it is. They change no target and lose nothing that is under
way, and every value they put into a sink finds its consumer awake.
-/

namespace ProtocolGateway

/-- What a plugin and its sink are to the gateway, whatever waits for them. -/
structure Outlook where
  target : Option MemoryTarget
  hasClient : Bool
  /-- The sink takes values and hands them over. -/
  listens : Bool

def Plugin.target? : Plugin → Option MemoryTarget
  | .target t => some t
  | .origin _ | .scripted _ => none

theorem Plugin.eq_target {plugin : Plugin} {t : MemoryTarget} (target : plugin.target? = some t) :
    plugin = .target t := by
  cases plugin with
  | target t' =>
    cases target
    rfl
  | origin | scripted => cases target

def PluginEntry.outlook (e : PluginEntry) : Outlook :=
  ⟨e.plugin.target?, e.plugin.hasClient, !e.sink.closed && e.sink.isReady⟩

theorem Plugin.handleReply_outlook (plugin : Plugin) (r : Reply) :
    (plugin.handleReply r).target? = plugin.target? ∧
      (plugin.handleReply r).hasClient = plugin.hasClient := by
  cases plugin with
  | target t | origin o => exact ⟨rfl, rfl⟩
  | scripted s =>
    refine ⟨rfl, ?_⟩
    unfold handleReply
    dsimp only
    split <;> rfl

theorem offer_listens {α β : Type} {s : Sink α β} (listens : (!s.closed && s.isReady) = true)
    (parcel : Parcel α β) : s.offer parcel = .queued (s.push parcel) := by
  simp only [Bool.and_eq_true, Bool.not_eq_eq_eq_not, Bool.not_true] at listens
  simp [Sink.offer, listens.1, listens.2]

theorem next?_listens {α β : Type} {s : Sink α β} (listens : (!s.closed && s.isReady) = true)
    {parcel : Parcel α β} {rest : List (Parcel α β)} (queue : s.queue = parcel :: rest) :
    s.next? = some (parcel, { s with queue := rest }) := by
  simp only [Bool.and_eq_true, Bool.not_eq_eq_eq_not, Bool.not_true] at listens
  simp [Sink.next?, listens.1, queue]

/-- An answer or a push: it changes no target and leads to no request. -/
def Parcel.Gentle : Parcel Outbound Inbound → Prop
  | .toA (.answer _) | .toB (.push _) => True
  | .toA (.request _) | .toB (.request _) => False

namespace Gateway

open Relation (ReflTransGen)

def outlook (g : Gateway) (p : ProtocolName) : Option Outlook :=
  (g.entry? p).map PluginEntry.outlook

/-- What the ends of the pipeline leave as it is. -/
structure Frame where
  phase : ManagerPhase
  keys : Keyring
  sequencer : Sequencer
  now : Nat
  names : List ProtocolName
  outlook : ProtocolName → Option Outlook

def frame (g : Gateway) : Frame :=
  ⟨g.phase, g.keys, g.sequencer, g.now, Table.keys g.plugins, g.outlook⟩

/-- Where values wait in an open sink, its consumer is under way. -/
def Awake (g : Gateway) : Prop :=
  ∀ p e, g.entry? p = some e → e.outlook.listens = true → e.sink.queue ≠ [] → .consume p ∈ g.tasks

def AwakeBut (g : Gateway) (p : ProtocolName) : Prop :=
  ∀ q e, q ≠ p → g.entry? q = some e → e.outlook.listens = true → e.sink.queue ≠ [] →
    .consume q ∈ g.tasks

def sinkOf (g : Gateway) (p : ProtocolName) : Option PluginSink := (g.entry? p).map PluginEntry.sink

variable {g g' g'' : Gateway}

theorem outlook_updateEntry (p : ProtocolName) {f : PluginEntry → PluginEntry}
    (same : ∀ e, g.entry? p = some e → (f e).outlook = e.outlook) :
    (g.updateEntry p f).outlook = g.outlook := by
  funext q
  unfold outlook
  rw [entry?_updateEntry]
  by_cases here : p = q
  · subst here
    rw [if_pos rfl]
    cases found : g.entry? p with
    | none => rfl
    | some e => exact congrArg some (same e found)
  · rw [if_neg here]

theorem frame_updateEntry (p : ProtocolName) {f : PluginEntry → PluginEntry}
    (same : ∀ e, g.entry? p = some e → (f e).outlook = e.outlook) :
    (g.updateEntry p f).frame = g.frame := by
  have look := outlook_updateEntry p same
  have names : Table.keys (g.updateEntry p f).plugins = Table.keys g.plugins :=
    congrArg Course.names (g.course_updateEntry p f)
  unfold frame
  rw [look, names]
  rfl

theorem Lacks.awake {t : Task} {left : Gateway} (lacks : g.Lacks t left) (awake : g.Awake)
    (other : ∀ p, t ≠ .consume p) : left.Awake := by
  intro p e found listens waiting
  rw [lacks.whole] at found
  rcases lacks.others _ (awake p e found listens waiting) with here | there
  · exact absurd here.symm (other p)
  · exact there

theorem Lacks.awakeBut {p : ProtocolName} {left : Gateway} (lacks : g.Lacks (.consume p) left)
    (awake : g.Awake) : left.AwakeBut p := by
  intro q e other found listens waiting
  rw [lacks.whole] at found
  rcases lacks.others _ (awake q e found listens waiting) with here | there
  · cases here
    exact absurd rfl other
  · exact there

namespace AwakeBut

variable {p : ProtocolName}

theorem awake (others : g.AwakeBut p) (own : ∀ e, g.entry? p = some e → e.outlook.listens = true →
    e.sink.queue ≠ [] → .consume p ∈ g.tasks) : g.Awake := by
  intro q e found listens waiting
  by_cases here : q = p
  · subst here
    exact own e found listens waiting
  · exact others q e here found listens waiting

theorem updateEntry (others : g.AwakeBut p) (f : PluginEntry → PluginEntry) :
    (g.updateEntry p f).AwakeBut p := by
  intro q e other found listens waiting
  rw [entry?_updateEntry, if_neg (Ne.symm other)] at found
  exact others q e other found listens waiting

theorem wakes (others : g.AwakeBut p) : (g.enqueue (.consume p)).Awake :=
  awake (fun q e other found listens waiting =>
    List.mem_append_left _ (others q e other found listens waiting))
    fun _ _ _ _ => List.mem_append_right _ List.mem_cons_self

theorem wakesFirst (others : g.AwakeBut p) : (g.enqueueFirst (.consume p)).Awake :=
  awake (fun q e other found listens waiting =>
    List.mem_cons_of_mem _ (others q e other found listens waiting))
    fun _ _ _ _ => List.mem_cons_self

end AwakeBut

/-- What is under way stays under way, and what becomes of the plugins is their own matter. -/
structure Stirs (g g' : Gateway) : Prop where
  frame : g'.frame = g.frame
  awake : g.Awake → g'.Awake
  more : g.frame.names.Nodup → ∀ a b, burden a b g ≤ burden a b g'

theorem Stirs.refl (g : Gateway) : Stirs g g := ⟨rfl, id, fun _ _ _ => Nat.le_refl _⟩

theorem Stirs.trans (first : Stirs g g') (second : Stirs g' g'') : Stirs g g'' where
  frame := second.frame.trans first.frame
  awake awake := second.awake (first.awake awake)
  more names a b :=
    (first.more names a b).trans (second.more (congrArg Frame.names first.frame ▸ names) a b)

theorem Stirs.of_same (frame : g'.frame = g.frame) (plugins : g'.plugins = g.plugins)
    (tasks : g'.tasks = g.tasks) : Stirs g g' where
  frame := frame
  awake awake := by
    unfold Awake entry? at *
    rw [plugins, tasks]
    exact awake
  more _ a b := by
    unfold burden
    rw [plugins, tasks]

theorem stirs_updateEntry (p : ProtocolName) {f : PluginEntry → PluginEntry}
    (look : ∀ e, g.entry? p = some e → (f e).outlook = e.outlook) (sink : ∀ e, (f e).sink = e.sink) :
    Stirs g (g.updateEntry p f) where
  frame := frame_updateEntry p look
  awake awake q e found listens waiting := by
    rw [entry?_updateEntry] at found
    split at found
    · rename_i same
      subst same
      obtain ⟨e', found', rfl⟩ := Option.map_eq_some_iff.mp found
      exact awake p e' found' (look e' found' ▸ listens) (sink e' ▸ waiting)
    · exact awake q e found listens waiting
  more _ _ _ := (burden_updateBeside p sink).ge

theorem stirs_enqueue (t : Task) : Stirs g (g.enqueue t) where
  frame := rfl
  awake awake q e found listens waiting := List.mem_append_left _ (awake q e found listens waiting)
  more _ a b := by
    rw [burden_enqueue]
    exact Nat.le_add_right _ _

theorem stirs_enqueueFirst (t : Task) : Stirs g (g.enqueueFirst t) where
  frame := rfl
  awake awake q e found listens waiting := List.mem_cons_of_mem _ (awake q e found listens waiting)
  more _ a b := by
    rw [burden_enqueueFirst]
    exact Nat.le_add_right _ _

theorem stirs_forward (hop : Hop) : Stirs g (g.forward hop) := by
  unfold forward
  split
  · exact stirs_enqueue _
  · exact .of_same rfl rfl rfl

/-! Sinks -/

theorem stirs_send (p : ProtocolName) (parcel : Parcel Outbound Inbound) :
    Stirs g (g.send p parcel).1 := by
  rcases g.send_cases p parcel with ⟨cause, refused⟩ | ⟨e, sink, found, offered, sent⟩
  · rw [refused]
    exact .refl g
  · let put := g.updateEntry p fun e => { e with sink := sink }
    have frame : put.frame = g.frame := frame_updateEntry p fun e' found' => by
      cases found.symm.trans found'
      obtain ⟨closed, ready⟩ := Sink.offer_flags offered
      unfold PluginEntry.outlook
      rw [closed, ready]
    have grows (names : g.frame.names.Nodup) (a : Task → Nat) (b : Parcel Outbound Inbound → Nat) :
        burden a b g ≤ burden a b put := by
      have moved : burden a b put + total b e.sink.queue = burden a b g + total b sink.queue :=
        burden_updateSink names found sink
      rw [Sink.offer_queue offered, total_append] at moved
      omega
    -- Nobody else's queue has grown.
    have others (awake : g.Awake) : put.AwakeBut p :=
      AwakeBut.updateEntry (fun q e' _ => awake q e') _
    rcases sent with ⟨here, sent⟩ | sent
    · rw [sent]
      exact ⟨frame, fun awake => (others awake).awake fun _ _ _ _ => here, grows⟩
    · rw [sent]
      have woken := stirs_enqueue (g := put) (.consume p)
      have unique := congrArg Frame.names frame
      exact ⟨woken.frame.trans frame, fun awake => (others awake).wakes,
        fun names a b => (grows names a b).trans (woken.more (unique ▸ names) a b)⟩

theorem send_listens {p : ProtocolName} {o : Outlook} (present : g.outlook p = some o)
    (listens : o.listens = true) (parcel : Parcel Outbound Inbound) :
    (g.send p parcel).2 = .ok () := by
  obtain ⟨e, found, rfl⟩ := Option.map_eq_some_iff.mp present
  unfold send
  rw [found]
  dsimp only
  rw [offer_listens listens]

theorem burden_send_listens (names : g.frame.names.Nodup) {p : ProtocolName} {o : Outlook}
    (present : g.outlook p = some o) (listens : o.listens = true)
    (parcel : Parcel Outbound Inbound) (a : Task → Nat) (b : Parcel Outbound Inbound → Nat) :
    burden a b g + b parcel ≤ burden a b (g.send p parcel).1 := by
  obtain ⟨e, found, rfl⟩ := Option.map_eq_some_iff.mp present
  have put := burden_updateSink (a := a) (b := b) names found (e.sink.push parcel)
  have queue : total b (e.sink.push parcel).queue = total b e.sink.queue + b parcel := by
    change total b (e.sink.queue ++ [parcel]) = _
    rw [total_append]
    rfl
  unfold send
  rw [found]
  dsimp only
  rw [offer_listens listens]
  dsimp only
  split
  · omega
  · rw [burden_enqueue]
    omega

theorem respond_listens {p : ProtocolName} {o : Outlook} (present : g.outlook p = some o)
    (listens : o.listens = true) (m : Message) (rest : List Message) :
    g.respond p (m :: rest) =
      if rest.isEmpty then (g.send p (.toA (.answer m))).1
      else (g.send p (.toA (.answer m))).1.enqueueFirst (.respond p rest) := by
  have sent := send_listens present listens (.toA (.answer m))
  rw [respond, reply]
  generalize g.send p (.toA (.answer m)) = result at sent ⊢
  obtain ⟨g', outcome⟩ := result
  cases sent
  rfl

/-! Consumers -/

theorem sinkOf_handOver (p q : ProtocolName) (x : Parcel Outbound Inbound) :
    (g.handOver p x).sinkOf q = g.sinkOf q := by
  have set (plugin : Plugin) : (g.setPlugin p plugin).sinkOf q = g.sinkOf q := by
    unfold sinkOf setPlugin
    rw [entry?_updateEntry]
    split
    · rw [Option.map_map]
      rfl
    · rfl
  have handed := g.handOver_cases p x
  generalize g.handOver p x = g' at handed ⊢
  cases handed with
  | lost | unheard => rfl
  | asks | answers =>
    unfold forward
    split <;> rfl
  | handled | pushed | responds => exact set _

theorem tasks_handOver (p : ProtocolName) (x : Parcel Outbound Inbound) :
    g.tasks ⊆ (g.handOver p x).tasks := by
  have handed := g.handOver_cases p x
  generalize g.handOver p x = g' at handed ⊢
  cases handed with
  | lost | unheard | handled | pushed => exact List.Subset.refl _
  | asks | answers =>
    unfold forward
    split
    · exact List.subset_append_left _ _
    · exact List.Subset.refl _
  | responds => exact List.subset_append_left _ _

theorem AwakeBut.handOver {p : ProtocolName} (others : g.AwakeBut p) (x : Parcel Outbound Inbound) :
    AwakeBut (g.handOver p x) p := by
  intro q e other found listens waiting
  have same := sinkOf_handOver (g := g) p q x
  unfold sinkOf at same
  rw [found] at same
  obtain ⟨e', found', sink⟩ := Option.map_eq_some_iff.mp same.symm
  have listens' : e'.outlook.listens = true := by
    unfold PluginEntry.outlook
    rw [sink]
    exact listens
  exact tasks_handOver p x (others q e' other found' listens' (sink ▸ waiting))

theorem awake_consume {p : ProtocolName} (others : g.AwakeBut p) : (g.consume p).Awake := by
  unfold consume
  split
  · rename_i none
    refine others.awake fun e found listens waiting => ?_
    obtain ⟨x, rest, queue⟩ := List.exists_cons_of_ne_nil waiting
    rw [found, Option.bind_some, next?_listens listens queue] at none
    cases none
  · rename_i x sink _
    have given : AwakeBut ((g.updateEntry p fun e => { e with sink := sink }).handOver p x) p :=
      (others.updateEntry _).handOver x
    dsimp only
    split
    · rename_i empty
      refine given.awake fun e found listens waiting => ?_
      have same := sinkOf_handOver (g := g.updateEntry p fun e => { e with sink := sink }) p p x
      unfold sinkOf at same
      rw [found, entry?_updateEntry, if_pos rfl, Option.map_map] at same
      obtain ⟨e', _, sink⟩ := Option.map_eq_some_iff.mp same.symm
      rw [← sink] at waiting
      exact absurd (List.isEmpty_iff.mp empty) waiting
    · exact given.wakesFirst

theorem frame_updateSink {p : ProtocolName} {e : PluginEntry} (found : g.entry? p = some e)
    {x : Parcel Outbound Inbound} {sink : PluginSink} (next : e.sink.next? = some (x, sink)) :
    Gateway.frame (g.updateEntry p fun e => { e with sink := sink }) = g.frame := by
  refine frame_updateEntry p fun e' found' => ?_
  cases found.symm.trans found'
  obtain ⟨closed, ready⟩ := Sink.next_flags next
  unfold PluginEntry.outlook
  rw [closed, ready]

/-- Plugins, callers and the interconnection stage are as they were. -/
structure Beside (g g' : Gateway) : Prop where
  frame : g'.frame = g.frame
  pending : g'.pendingOf = g.pendingOf
  exchanges : g'.exchanges = g.exchanges
  stage : g'.interconnection = g.interconnection

theorem Beside.refl (g : Gateway) : Beside g g := ⟨rfl, rfl, rfl, rfl⟩

theorem Beside.trans (first : Beside g g') (second : Beside g' g'') : Beside g g'' where
  frame := second.frame.trans first.frame
  pending := second.pending.trans first.pending
  exchanges := second.exchanges.trans first.exchanges
  stage := second.stage.trans first.stage

theorem Beside.of_traffic (frame : g'.frame = g.frame) (traffic : g'.traffic = g.traffic) :
    Beside g g' :=
  ⟨frame, congrArg Traffic.pending traffic, congrArg Traffic.exchanges traffic,
    congrArg Traffic.interconnection traffic⟩

theorem beside_forward (hop : Hop) : Beside g (g.forward hop) := by
  unfold forward
  split <;> exact ⟨rfl, rfl, rfl, rfl⟩

theorem beside_follow (r : StageResult) : Beside g (g.follow r) := by
  match r with
  | .ok none | .error .clockOverflow => exact .refl g
  | .ok (some hop) => exact beside_forward hop
  | .error (.fault _) => exact ⟨rfl, rfl, rfl, rfl⟩

theorem burden_forward_running (running : g.phase = .running) (hop : Hop)
    (a : Task → Nat) (b : Parcel Outbound Inbound → Nat) :
    burden a b (g.forward hop) = burden a b g + a (.forward hop) := by
  have forward : g.forward hop = g.enqueue (.forward hop) := by
    unfold Gateway.forward isRunning
    simp [running]
  rw [forward, burden_enqueue]

theorem burden_follow_running (running : g.phase = .running) (r : StageResult) (a : Task → Nat)
    (b : Parcel Outbound Inbound → Nat) :
    burden a b (g.follow r) =
      burden a b g + total (fun hop => a (.forward hop)) (Traffic.sent r).toList := by
  match r with
  | .ok none | .error (.fault _) | .error .clockOverflow => rfl
  | .ok (some hop) => exact burden_forward_running running hop a b

theorem beside_handOver (p : ProtocolName) {x : Parcel Outbound Inbound} (gentle : x.Gentle) :
    Beside g (g.handOver p x) := by
  have handed := g.handOver_cases p x
  generalize g.handOver p x = g' at handed ⊢
  cases handed with
  | lost | unheard => exact .refl g
  | asks | handled | responds => cases gentle
  | answers m there => exact beside_forward _
  | pushed e r found =>
    refine .of_traffic (frame_updateEntry p fun e' found' => ?_) (g.traffic_setPlugin p _)
    cases found.symm.trans found'
    obtain ⟨target, client⟩ := e.plugin.handleReply_outlook r
    unfold PluginEntry.outlook
    dsimp only
    rw [target, client]

theorem beside_consume {p : ProtocolName}
    (gentle : ∀ e, g.entry? p = some e → ∀ x ∈ e.sink.queue, x.Gentle) : Beside g (g.consume p) := by
  rcases g.consume_cases p with idle | ⟨e, x, sink, found, next, goes⟩
  · rw [idle]
    exact .refl g
  · have queue := Sink.next_queue next
    have popped : Beside g (g.updateEntry p fun e => { e with sink := sink }) := by
      have traffic := g.traffic_updateSink p sink
      exact ⟨frame_updateSink found next, congrArg Traffic.pending traffic,
        congrArg Traffic.exchanges traffic, congrArg Traffic.interconnection traffic⟩
    have given := popped.trans (beside_handOver p (gentle e found x (queue ▸ List.mem_cons_self)))
    dsimp only at goes
    rcases goes with last | more
    · rw [last]
      exact given
    · rw [more]
      exact given.trans ⟨rfl, rfl, rfl, rfl⟩

theorem burden_consume (running : g.phase = .running) (names : g.frame.names.Nodup) {p : ProtocolName}
    (gentle : ∀ e, g.entry? p = some e → ∀ x ∈ e.sink.queue, x.Gentle)
    {a : Task → Nat} {b : Parcel Outbound Inbound → Nat}
    (answers : ∀ m, b (.toA (.answer m)) ≤
      a (.forward ⟨.manager, .interconnection, g.keys.wrap m p⟩))
    (pushes : ∀ r, b (.toB (.push r)) = 0) : burden a b g ≤ burden a b (g.consume p) := by
  rcases g.consume_cases p with idle | ⟨e, x, sink, found, next, goes⟩
  · rw [idle]
  · have queue := Sink.next_queue next
    obtain ⟨popped, taken⟩ : ∃ h, g.updateEntry p (fun e => { e with sink := sink }) = h := ⟨_, rfl⟩
    have left : burden a b popped + b x = burden a b g := by
      have moved : burden a b popped + total b e.sink.queue = burden a b g + total b sink.queue :=
        taken ▸ burden_updateSink names found sink
      rw [queue, total_cons] at moved
      omega
    have given : burden a b popped + b x ≤ burden a b (popped.handOver p x) := by
      have here := gentle e found x (queue ▸ List.mem_cons_self)
      have running : popped.phase = .running := taken ▸ running
      have keys : popped.keys = g.keys := taken ▸ rfl
      have handed := popped.handOver_cases p x
      generalize popped.handOver p x = after at handed ⊢
      -- Only an answer becomes a hop; a push is heard or lost and counts for nothing.
      cases handed with
      | asks | handled | responds => cases here
      | lost inbound gone => cases running.symm.trans gone
      | answers m there =>
        have there := answers m
        rw [burden_forward_running running, keys]
        omega
      | unheard outbound absent =>
        cases outbound with
        | request r => cases here
        | push r => exact (congrArg (burden a b popped + ·) (pushes r)).le
      | pushed e' r found' =>
        rw [pushes r]
        exact (burden_setPlugin p _).ge
    dsimp only at goes
    rw [taken] at goes
    rcases goes with last | more
    · rw [last]
      omega
    · rw [more, burden_enqueueFirst]
      omega

/-- When nothing is under way and every consumer with something to do is awake, no value waits. -/
theorem burden_at_rest (awake : g.Awake) (listens : ∀ p o, g.outlook p = some o → o.listens = true)
    (names : g.frame.names.Nodup) (still : g.tasks = []) (a : Task → Nat)
    (b : Parcel Outbound Inbound → Nat) : burden a b g = 0 := by
  have empty : total (fun e => total b e.2.sink.queue) g.plugins = 0 := by
    apply total_eq_zero
    intro e member
    have found : g.entry? e.1 = some e.2 := Table.at?_of_mem names member
    by_cases waiting : e.2.sink.queue = []
    · rw [waiting]
      rfl
    · have consumer := awake e.1 e.2 found (listens e.1 _ (congrArg _ found)) waiting
      rw [still] at consumer
      cases consumer
  unfold burden
  rw [still, empty]
  rfl

/-! Outcomes -/

theorem stirs_resolve (p : ProtocolName) (s : Sequence) (m : Message) :
    Stirs g (g.resolve p s m).1 := by
  unfold resolve
  split
  · exact .of_same rfl rfl rfl
  · rename_i k _
    have released : Stirs g (g.release p s) := stirs_updateEntry p (fun _ _ => rfl) fun _ => rfl
    have concluded : Stirs g ((g.release p s).conclude k (resolutionOf m s)).1 := by
      refine released.trans ?_
      unfold conclude
      split
      · exact .of_same rfl rfl rfl
      · exact .refl _
    dsimp only
    split
    · split
      · exact concluded
      · exact concluded.trans (.of_same rfl rfl rfl)
    · exact concluded

theorem stirs_acts {Q : ProtocolName → Parcel Outbound Inbound → Prop}
    (acts : ReflTransGen (Act Q) g g') : Stirs g g' := by
  induction acts with
  | refl => exact .refl g
  | tail _ act ih =>
    cases act with
    | put good => exact ih.trans (stirs_send _ _)
    | resolve p s m => exact ih.trans (stirs_resolve p s m)

theorem stirs_answerAll (m : Message) (l : ReplyTo) :
    Stirs g (l.foldl (fun g r => g.answerProtocol m r.1 r.2) g) :=
  stirs_acts (acts_answerAll (Q := fun _ _ => True) (fun _ _ _ => trivial) l)

theorem stirs_follow (r : StageResult) : Stirs g (g.follow r) := by
  match r with
  | .ok none => exact .refl g
  | .ok (some hop) => exact stirs_forward hop
  | .error (.fault _) => exact .of_same rfl rfl rfl
  | .error .clockOverflow => exact .refl g

end Gateway

end ProtocolGateway
