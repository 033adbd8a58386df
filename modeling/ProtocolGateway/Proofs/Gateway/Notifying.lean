import Mathlib
import ProtocolGateway.Proofs.Gateway.Errand

/-!
Who hears of a reply. A plugin with a server side hears what is pushed to it, in the order in which it
was pushed and everything once. Of a reply that is fanned out it hears when it is listed as standing and
none of its own requests is there to be answered.
-/

namespace ProtocolGateway

def Plugin.heard : Plugin → List Reply
  | .target _ => []
  | .origin o => o.pushed
  | .scripted s => s.pushed

def Parcel.pushed? : Parcel Outbound Inbound → Option Reply
  | .toB (.push r) => some r
  | _ => none

/-- The replies that a plugin has heard or is going to hear. -/
def PluginEntry.notified (e : PluginEntry) : List Reply :=
  e.plugin.heard ++ e.sink.queue.filterMap Parcel.pushed?

structure PluginEntry.Hears (e : PluginEntry) (rs : List Reply) : Prop where
  server : e.plugin.hasServer = true
  listens : (!e.sink.closed && e.sink.isReady) = true
  replies : e.notified = rs

theorem Plugin.heard_handleRequest (plugin : Plugin) (r : Request) :
    (plugin.handleRequest r).1.heard = plugin.heard ∧
      (plugin.handleRequest r).1.hasServer = plugin.hasServer := by
  cases plugin with
  | target | origin => exact ⟨rfl, rfl⟩
  | scripted s =>
    unfold handleRequest
    dsimp only
    split <;> exact ⟨rfl, rfl⟩

theorem Plugin.heard_handleReply {plugin : Plugin} (server : plugin.hasServer = true) (r : Reply) :
    (plugin.handleReply r).heard = plugin.heard ++ [r] ∧ (plugin.handleReply r).hasServer = true := by
  cases plugin with
  | target => cases server
  | origin => exact ⟨rfl, rfl⟩
  | scripted s =>
    have server : s.hasServer = true := server
    unfold handleReply
    simp only [server, ↓reduceIte]
    exact ⟨rfl, server⟩

theorem mem_sequences {subscribers : List Subscriber} {n : Sequence} :
    n ∈ subscribers.filterMap Subscriber.sequence? ↔ .once n ∈ subscribers := by
  rw [List.mem_filterMap]
  constructor
  · rintro ⟨s, member, same⟩
    cases s with
    | standing => cases same
    | once =>
      cases same
      exact member
  · exact fun member => ⟨_, member, rfl⟩

theorem standing_once {subscribers : List Subscriber} (single : subscribers.Nodup)
    (stands : .standing ∈ subscribers) :
    subscribers.filter (fun s => !s.isOnce) = [.standing] := by
  have same : subscribers.filter (fun s => !s.isOnce) = subscribers.filter (· == .standing) := by
    apply List.filter_congr
    intro s _
    cases s <;> rfl
  rw [same, List.filter_beq, List.count_eq_one_of_mem single stands]
  rfl

namespace Gateway

open Relation (ReflTransGen)

def Hears (g : Gateway) (p : ProtocolName) (rs : List Reply) : Prop :=
  ∃ e, g.entry? p = some e ∧ e.Hears rs

variable {g g' : Gateway} {p q : ProtocolName} {rs : List Reply}

theorem Hears.of_plugins (hears : g.Hears p rs) (plugins : g'.plugins = g.plugins) : g'.Hears p rs := by
  unfold Hears entry? at *
  rw [plugins]
  exact hears

theorem Hears.updateEntry (hears : g.Hears p rs) (q : ProtocolName) {f : PluginEntry → PluginEntry}
    (same : ∀ e, g.entry? q = some e → e.Hears rs → q = p → (f e).Hears rs) :
    (g.updateEntry q f).Hears p rs := by
  obtain ⟨e, found, mine⟩ := hears
  unfold Hears
  rw [entry?_updateEntry]
  by_cases here : q = p
  · subst here
    exact ⟨f e, by simp [found], same e found mine rfl⟩
  · exact ⟨e, by simp [here, found], mine⟩

theorem Hears.send (hears : g.Hears p rs) (q : ProtocolName) (x : Parcel Outbound Inbound) :
    (g.send q x).1.Hears p (if q = p then rs ++ x.pushed?.toList else rs) := by
  obtain ⟨e, found, mine⟩ := hears
  unfold Gateway.send
  by_cases here : q = p
  · subst here
    rw [found]
    dsimp only
    rw [offer_listens mine.listens]
    have placed : (g.updateEntry q fun e' => { e' with sink := e.sink.push x }).Hears q
        (rs ++ x.pushed?.toList) := by
      refine ⟨{ e with sink := e.sink.push x }, ?_, mine.server, mine.listens, ?_⟩
      · rw [entry?_updateEntry, if_pos rfl, found]
        rfl
      · rw [← mine.replies]
        simp only [PluginEntry.notified, Sink.push, List.filterMap_append, List.append_assoc,
          List.filterMap_cons, List.filterMap_nil]
        cases x.pushed? <;> rfl
    rw [if_pos rfl]
    dsimp only
    split
    · exact placed
    · exact placed.of_plugins rfl
  · rw [if_neg here]
    have still : g.Hears p rs := ⟨e, found, mine⟩
    split
    · exact still
    · split
      · rename_i sink _
        have placed : (g.updateEntry q fun e => { e with sink := sink }).Hears p rs :=
          still.updateEntry q fun _ _ _ same => absurd same here
        dsimp only
        split
        · exact placed
        · exact placed.of_plugins rfl
      · exact still
      · exact still

/-! Answers -/

theorem Hears.resolve (hears : g.Hears p rs) (q : ProtocolName) (s : Sequence) (m : Message) :
    (g.resolve q s m).1.Hears p rs := by
  unfold Gateway.resolve
  split
  · exact hears.of_plugins rfl
  · rename_i k _
    have released : (g.release q s).Hears p rs :=
      hears.updateEntry q fun _ _ mine _ => ⟨mine.server, mine.listens, mine.replies⟩
    have concluded : ((g.release q s).conclude k (resolutionOf m s)).1.Hears p rs := by
      unfold conclude
      split <;> exact released.of_plugins rfl
    dsimp only
    split
    · split
      · exact concluded
      · exact concluded.of_plugins rfl
    · exact concluded

theorem Hears.resolveAll (hears : g.Hears p rs) (q : ProtocolName) (m : Message) (ss : List Sequence) :
    (g.resolveAll q m ss).1.Hears p rs := by
  induction ss generalizing g with
  | nil => exact hears
  | cons s rest ih => exact ih (hears.resolve q s m)

theorem Hears.push (hears : g.Hears p rs) (r : Reply) : (g.push p (.reply r)).Hears p (rs ++ [r]) := by
  obtain ⟨e, found, mine⟩ := id hears
  have sent := hears.send p (.toB (.push r))
  rw [if_pos rfl] at sent
  unfold Gateway.push
  simp only [found, mine.server, ↓reduceIte]
  exact sent

theorem Hears.push_other (hears : g.Hears p rs) (other : q ≠ p) (m : Message) :
    (g.push q m).Hears p rs := by
  unfold Gateway.push
  split
  · rename_i r _ _
    have sent := hears.send q (.toB (.push r))
    rw [if_neg other] at sent
    split
    · exact sent
    · exact hears
  · exact hears

/-- A request that waits answers for its protocol, whether its caller is still there or not. -/
theorem resolve_answers (g : Gateway) (p : ProtocolName) (s : Sequence) {m : Message}
    (answer : m.isReplyLike = true) : (g.resolve p s m).2 = (g.pending? p s).isSome := by
  unfold Gateway.resolve pending?
  split
  · rename_i none
    rw [none]
    rfl
  · rename_i some
    rw [some, answer]
    rfl

theorem resolveAll_answers (g : Gateway) (p : ProtocolName) {m : Message} (answer : m.isReplyLike = true)
    (ss : List Sequence) :
    (g.resolveAll p m ss).2 = true ↔ ∃ s ∈ ss, (g.pending? p s).isSome := by
  induction ss generalizing g with
  | nil => simp [Gateway.resolveAll]
  | cons s rest ih =>
    change ((g.resolve p s m).2 || ((g.resolve p s m).1.resolveAll p m rest).2) = true ↔ _
    rw [resolve_answers g p s answer, Bool.or_eq_true, ih, List.exists_mem_cons_iff]
    cases waits : g.pending? p s with
    | some k => simp
    | none =>
      -- A request that does not wait leaves all others as they are.
      have same : (g.resolve p s m).1 = g.countUnmatched := by
        unfold pending? at waits
        unfold Gateway.resolve
        rw [waits]
      simp only [Option.isSome_none, Bool.false_eq_true, false_or, same]
      rfl

/-- Of a reply a standing subscriber hears once, unless one of the protocol's requests was there. -/
theorem Hears.answerProtocol (hears : g.Hears p rs) (r : Reply) {subscribers : List Subscriber}
    (single : subscribers.Nodup) (stands : .standing ∈ subscribers) :
    (g.answerProtocol (.reply r) p subscribers).Hears p
      (if ∃ n, .once n ∈ subscribers ∧ (g.pending? p n).isSome then rs else rs ++ [r]) := by
  have resolved := hears.resolveAll p (.reply r) (subscribers.filterMap Subscriber.sequence?)
  have answers := g.resolveAll_answers p (m := .reply r) rfl (subscribers.filterMap Subscriber.sequence?)
  have waits : (∃ n ∈ subscribers.filterMap Subscriber.sequence?, (g.pending? p n).isSome) ↔
      ∃ n, .once n ∈ subscribers ∧ (g.pending? p n).isSome := by
    simp only [mem_sequences]
  have once := standing_once single stands
  obtain ⟨e, found, mine⟩ := id hears
  unfold Gateway.answerProtocol
  simp only [found, Option.isNone_some, Bool.false_eq_true, ↓reduceIte]
  rw [once]
  rw [waits] at answers
  by_cases there : ∃ n, .once n ∈ subscribers ∧ (g.pending? p n).isSome
  · rw [if_pos there, if_pos (answers.mpr there)]
    exact resolved
  · rw [if_neg there, if_neg fun yes => there (answers.mp yes)]
    exact resolved.push r

theorem Hears.answerProtocol_other (hears : g.Hears p rs) (other : q ≠ p) (m : Message)
    (subscribers : List Subscriber) : (g.answerProtocol m q subscribers).Hears p rs := by
  have pushes (g : Gateway) (hears : g.Hears p rs) (l : List Subscriber) :
      (l.foldl (fun g _ => g.push q m) g).Hears p rs := by
    induction l generalizing g with
    | nil => exact hears
    | cons _ rest ih => exact ih _ (hears.push_other other m)
  unfold Gateway.answerProtocol
  split
  · exact hears
  · have resolved := hears.resolveAll q m (subscribers.filterMap Subscriber.sequence?)
    dsimp only
    split
    · exact resolved
    · exact pushes _ resolved _

theorem pending?_answerProtocol_other (g : Gateway) (other : q ≠ p) (m : Message)
    (subscribers : List Subscriber) (s : Sequence) :
    (g.answerProtocol m q subscribers).pending? p s = g.pending? p s := by
  rw [pending?_eq, pending?_eq]
  change Table.at? ((g.answerProtocol m q subscribers).traffic.pending p) s = Table.at? (g.traffic.pending p) s
  rw [traffic_answerProtocol]
  generalize g.traffic = t
  induction subscribers.filterMap Subscriber.sequence? generalizing t with
  | nil => rfl
  | cons u rest ih =>
    rw [List.map_cons, List.foldl_cons, ih, Traffic.at?_resolve, if_neg]
    exact fun same => other (congrArg Prod.fst same)

theorem Hears.answerAll_other (hears : g.Hears p rs) (m : Message) {l : ReplyTo}
    (absent : p ∉ l.map Prod.fst) :
    (l.foldl (fun g x => g.answerProtocol m x.1 x.2) g).Hears p rs := by
  induction l generalizing g with
  | nil => exact hears
  | cons x rest ih =>
    rw [List.map_cons, List.mem_cons, not_or] at absent
    exact ih (hears.answerProtocol_other (fun same => absent.1 same.symm) m x.2) absent.2

theorem Hears.answerAll (hears : g.Hears p rs) (r : Reply) {l : ReplyTo}
    (names : (l.map Prod.fst).Nodup) {subscribers : List Subscriber} (listed : (p, subscribers) ∈ l)
    (single : subscribers.Nodup) (stands : .standing ∈ subscribers) :
    (l.foldl (fun g x => g.answerProtocol (.reply r) x.1 x.2) g).Hears p
      (if ∃ n, .once n ∈ subscribers ∧ (g.pending? p n).isSome then rs else rs ++ [r]) := by
  induction l generalizing g with
  | nil => cases listed
  | cons x rest ih =>
    rw [List.map_cons, List.nodup_cons] at names
    rcases List.mem_cons.mp listed with rfl | later
    · exact (hears.answerProtocol r single stands).answerAll_other (.reply r) names.1
    · -- The protocol comes later, and what is done for others leaves its requests on record.
      have other : x.1 ≠ p := fun same => names.1 (same ▸ List.mem_map_of_mem later)
      have rest := ih (hears.answerProtocol_other other (.reply r) x.2) names.2 later
      simp only [pending?_answerProtocol_other g other] at rest
      exact rest

/-! Afterwards -/

/-- Whatever a plugin hears, it hears in this order and later only more; and no consumer falls asleep. -/
structure Follows (p : ProtocolName) (g g' : Gateway) : Prop where
  grows : ∀ rs, g.Hears p rs → ∃ more, g'.Hears p (rs ++ more)
  awake : g.Awake → g'.Awake

theorem Follows.of_same (same : ∀ rs, g.Hears p rs → g'.Hears p rs) (awake : g.Awake → g'.Awake) :
    Follows p g g' :=
  ⟨fun rs hears => ⟨[], by simpa using same rs hears⟩, awake⟩

theorem Follows.refl (p : ProtocolName) (g : Gateway) : Follows p g g := .of_same (fun _ => id) id

theorem Follows.trans {g'' : Gateway} (first : Follows p g g') (second : Follows p g' g'') :
    Follows p g g'' where
  grows rs hears := by
    obtain ⟨more, hears⟩ := first.grows rs hears
    obtain ⟨later, hears⟩ := second.grows _ hears
    exact ⟨more ++ later, by simpa using hears⟩
  awake awake := second.awake (first.awake awake)

theorem Follows.of_plugins (plugins : g'.plugins = g.plugins) (tasks : g.tasks ⊆ g'.tasks) :
    Follows p g g' :=
  .of_same (fun _ hears => hears.of_plugins plugins) fun awake q e found listens waiting => by
    unfold entry? at found
    rw [plugins] at found
    exact tasks (awake q e found listens waiting)

theorem follows_forward (hop : Hop) : Follows p g (g.forward hop) := by
  unfold forward
  split
  · exact .of_plugins rfl (List.subset_append_left _ _)
  · exact .of_plugins rfl (List.Subset.refl _)

theorem follows_send (q : ProtocolName) (x : Parcel Outbound Inbound) :
    Follows p g (g.send q x).1 where
  grows rs hears := by
    have sent := hears.send q x
    split at sent
    · exact ⟨_, sent⟩
    · exact ⟨[], by simpa using sent⟩
  awake := (stirs_send q x).awake

theorem follows_reply (q : ProtocolName) (m : Message) : Follows p g (g.reply q m).1 := by
  rw [reply_eq]
  exact follows_send q _

theorem follows_conclude (k : Ticket) (x : Resolution) : Follows p g (g.conclude k x).1 := by
  unfold conclude
  split
  · exact .of_plugins rfl (List.Subset.refl _)
  · exact .refl p g

theorem follows_updateEntry (q : ProtocolName) {f : PluginEntry → PluginEntry}
    (same : ∀ rs e, g.entry? q = some e → e.Hears rs → (f e).Hears rs)
    (sink : ∀ e, (f e).sink = e.sink) : Follows p g (g.updateEntry q f) :=
  .of_same (fun rs hears => hears.updateEntry q fun e found mine _ => same rs e found mine)
    fun awake q' e' found listens waiting => by
      rw [entry?_updateEntry] at found
      split at found
      · rename_i here
        subst here
        obtain ⟨e, found', rfl⟩ := Option.map_eq_some_iff.mp found
        unfold PluginEntry.outlook at listens
        rw [sink] at listens waiting
        exact awake q e found' listens waiting
      · exact awake q' e' found listens waiting

theorem follows_release (q : ProtocolName) (s : Sequence) : Follows p g (g.release q s) :=
  follows_updateEntry q (fun _ _ _ mine => ⟨mine.server, mine.listens, mine.replies⟩) fun _ => rfl

theorem follows_acts {Q : ProtocolName → Parcel Outbound Inbound → Prop}
    (acts : ReflTransGen (Act Q) g g') : Follows p g g' := by
  induction acts with
  | refl => exact .refl p g
  | tail _ act ih =>
    cases act with
    | put good => exact ih.trans (follows_send _ _)
    | resolve q s m =>
      exact ih.trans (.of_same (fun _ hears => hears.resolve q s m) (stirs_resolve q s m).awake)

/-! Consumers -/

theorem Hears.handOver_other (hears : g.Hears p rs) (other : q ≠ p) (x : Parcel Outbound Inbound) :
    (g.handOver q x).Hears p rs := by
  have set (plugin : Plugin) : (g.setPlugin q plugin).Hears p rs :=
    hears.updateEntry q fun _ _ _ same => absurd same other
  have handed := g.handOver_cases q x
  generalize g.handOver q x = g' at handed ⊢
  cases handed with
  | lost | unheard => exact hears
  | asks | answers =>
    unfold forward
    split <;> exact hears.of_plugins rfl
  | handled | pushed => exact set _
  | responds => exact (set _).of_plugins rfl

theorem Hears.handOver {e : PluginEntry} (found : g.entry? p = some e)
    (server : e.plugin.hasServer = true) (listens : (!e.sink.closed && e.sink.isReady) = true)
    (x : Parcel Outbound Inbound) :
    (g.handOver p x).Hears p
      (e.plugin.heard ++ x.pushed?.toList ++ e.sink.queue.filterMap Parcel.pushed?) := by
  have set {plugin : Plugin} (server : plugin.hasServer = true) :
      (g.setPlugin p plugin).Hears p (plugin.heard ++ e.sink.queue.filterMap Parcel.pushed?) := by
    refine ⟨{ e with plugin := plugin }, ?_, server, listens, rfl⟩
    unfold setPlugin
    rw [entry?_updateEntry, if_pos rfl, found]
    rfl
  have mine : g.Hears p (e.plugin.heard ++ e.sink.queue.filterMap Parcel.pushed?) :=
    ⟨e, found, server, listens, rfl⟩
  have skip (silent : x.pushed? = none) :
      e.plugin.heard ++ x.pushed?.toList ++ e.sink.queue.filterMap Parcel.pushed? =
        e.plugin.heard ++ e.sink.queue.filterMap Parcel.pushed? := by
    rw [silent, Option.toList_none, List.append_nil]
  have handed := g.handOver_cases p x
  generalize g.handOver p x = g' at handed ⊢
  -- Only a push is heard; whatever else comes out leaves the plugin with what it has heard.
  cases handed with
  | lost inbound gone =>
    rw [skip rfl]
    exact mine
  | asks | answers =>
    rw [skip rfl]
    unfold forward
    split <;> exact mine.of_plugins rfl
  | unheard outbound absent => cases found.symm.trans absent
  | handled e' r found' | responds e' r found' =>
    cases found.symm.trans found'
    obtain ⟨heard, same⟩ := e.plugin.heard_handleRequest r
    have kept := set (same.trans server)
    rw [heard] at kept
    rw [skip rfl]
    exact kept.of_plugins rfl
  | pushed e' r found' =>
    cases found.symm.trans found'
    obtain ⟨heard, same⟩ := Plugin.heard_handleReply server r
    have kept := set same
    rw [heard] at kept
    exact kept

theorem Hears.consume (hears : g.Hears p rs) (q : ProtocolName) : (g.consume q).Hears p rs := by
  rcases consume_cases g q with same | ⟨e, x, sink, found, next, given⟩
  · rw [same]
    exact hears
  · have handed : ((g.updateEntry q fun e => { e with sink := sink }).handOver q x).Hears p rs := by
      by_cases here : q = p
      · subst here
        obtain ⟨e', found', mine⟩ := hears
        cases found.symm.trans found'
        have queue := Sink.next_queue next
        have flags : (!sink.closed && sink.isReady) = (!e.sink.closed && e.sink.isReady) := by
          rw [(Sink.next_flags next).1, (Sink.next_flags next).2]
        -- What is handed over has left the queue, and is heard instead.
        have popped : Gateway.entry? (g.updateEntry q fun e => { e with sink := sink }) q =
            some { e with sink := sink } := by
          rw [entry?_updateEntry, if_pos rfl, found]
          rfl
        have handed := Hears.handOver popped mine.server (flags.trans mine.listens) x
        have same : e.plugin.heard ++ x.pushed?.toList ++ sink.queue.filterMap Parcel.pushed? = rs := by
          rw [← mine.replies, PluginEntry.notified, queue, List.filterMap_cons, List.append_assoc]
          cases x.pushed? <;> rfl
        exact same ▸ handed
      · exact (hears.updateEntry q fun _ _ _ same => absurd same here).handOver_other here x
    rcases given with same | same
    · rw [same]
      exact handed
    · rw [same]
      exact handed.of_plugins rfl

/-! Whatever happens -/

theorem follows_follow (r : StageResult) : Follows p g (g.follow r) := by
  match r with
  | .ok none => exact .refl p g
  | .ok (some hop) => exact follows_forward hop
  | .error (.fault _) => exact .of_plugins rfl (List.Subset.refl _)
  | .error .clockOverflow => exact .refl p g

theorem follows_receiveAt (hop : Hop) (e : Envelope) : Follows p g (g.receiveAt hop e).1 := by
  rcases g.receiveAt_cases hop e with ⟨ic, stage⟩ | acts
  · rw [stage]
    exact .of_plugins rfl (List.Subset.refl _)
  · exact follows_acts acts

theorem follows_dispatch (hop : Hop) : Follows p g (g.dispatch hop) := by
  have counted : Follows p g g.countForwarded := .of_plugins rfl (List.Subset.refl _)
  unfold dispatch
  split
  · exact .of_plugins rfl (List.Subset.refl _)
  · exact counted.trans ((follows_receiveAt hop _).trans (follows_follow _))

theorem follows_respond (q : ProtocolName) (messages : List Message) :
    Follows p g (g.respond q messages) := by
  rcases g.respond_cases q messages with idle | ⟨m, rest, _, given⟩
  · rw [idle]
    exact .refl p g
  · have sent : Follows p g (g.send q (.toA (.answer m))).1 := follows_send q _
    rcases given with last | more
    · rw [last]
      exact sent
    · rw [more]
      exact sent.trans (.of_plugins rfl (List.subset_cons_self _ _))

theorem follows_runTask (i : Nat) : Follows p g (g.runTask i) := by
  by_cases bound : i < g.tasks.length
  · obtain ⟨left, run, lacks⟩ := exists_lacks (List.getElem?_eq_getElem bound)
    rw [run]
    have same (rs : List Reply) (hears : g.Hears p rs) : left.Hears p rs := by
      rw [lacks.whole]
      exact hears.of_plugins rfl
    cases task : g.tasks[i] with
    | consume q =>
      rw [task] at lacks
      exact .of_same (fun rs hears => (same rs hears).consume q) fun awake =>
        awake_consume (lacks.awakeBut awake)
    | forward hop =>
      have taken : Follows p g left := .of_same same fun awake => lacks.awake awake (by simp [task])
      exact taken.trans (follows_dispatch hop)
    | respond q messages =>
      have taken : Follows p g left := .of_same same fun awake => lacks.awake awake (by simp [task])
      exact taken.trans (follows_respond q messages)
  · unfold runTask
    rw [List.getElem?_eq_none (Nat.le_of_not_lt bound)]
    exact .refl p g

theorem follows_await (q : ProtocolName) (s : Sequence) : Follows p g (g.await q s).2 := by
  have begun : Follows p g { g with exchanges := g.exchanges ++ [.waiting] } :=
    .of_plugins rfl (List.Subset.refl _)
  unfold await
  dsimp only
  refine .trans ?_ (follows_updateEntry q (fun _ _ _ mine => ⟨mine.server, mine.listens, mine.replies⟩)
    fun _ => rfl)
  split
  · exact begun.trans (follows_conclude _ _)
  · exact begun

theorem follows_submit (q : ProtocolName) (r : Request) : Follows p g (g.submit q r).1 := by
  unfold Gateway.submit
  split
  · exact .refl p g
  · dsimp only
    have drawn : Follows p g { g with sequencer := (g.sequencer.next r.headers.operation).2 } :=
      .of_plugins rfl (List.Subset.refl _)
    split
    · exact drawn
    · rename_i sealed _
      have sent := (drawn.trans (follows_await q (g.sequencer.next r.headers.operation).1)).trans
        (follows_send q (.toA (.request sealed)))
      split <;> rename_i same <;> rw [same] at sent
      · exact sent
      · exact (sent.trans (follows_release q _)).trans (follows_conclude _ _)

theorem follows_notify (q : ProtocolName) (authority path : String) (content : Octets) :
    Follows p g (g.notify q authority path content).1 := by
  unfold Gateway.notify
  split
  · rename_i t target
    -- A target has no server side, so its change is nobody's who hears.
    have set (plugin : Plugin) : Follows p g (g.setPlugin q plugin) :=
      follows_updateEntry q (fun rs e found mine => by
        rw [found, Option.map_some, Option.some.injEq] at target
        have server := mine.server
        rw [target] at server
        cases server) fun _ => rfl
    dsimp only
    split
    · exact (set _).trans (follows_reply q _)
    · exact set _
  · exact .refl p g

theorem follows_step (event : Event) : Follows p g (g.step event) := by
  cases event with
  | submit q r => exact follows_submit q r
  | reply q m => exact follows_reply q m
  | notify q authority path content => exact follows_notify q authority path content
  | abandon k =>
    unfold step abandon
    dsimp only
    split
    · exact .of_plugins rfl (List.Subset.refl _)
    · exact .refl p g
  | run i => exact follows_runTask i
  | pass ms => exact .of_plugins rfl (List.Subset.refl _)

theorem follows_runAll (events : List Event) : Follows p g (g.runAll events) := by
  induction events generalizing g with
  | nil => exact .refl p g
  | cons event rest ih => exact (follows_step event).trans ih

def heard (g : Gateway) (p : ProtocolName) : List Reply :=
  ((g.entry? p).map fun e => e.plugin.heard).getD []

theorem Hears.at_rest (hears : g.Hears p rs) (awake : g.Awake) (still : g.tasks = []) :
    g.heard p = rs := by
  obtain ⟨e, found, mine⟩ := hears
  have empty : e.sink.queue = [] := by
    by_contra waiting
    have woken := awake p e found mine.listens waiting
    rw [still] at woken
    cases woken
  unfold heard
  rw [found, ← mine.replies, PluginEntry.notified, empty]
  simp

/-! Fanning out -/

/-- A reply on its way out, with the sets of subscribers that it goes to, one for each protocol. -/
structure Brings (g : Gateway) (e : Envelope) (r : Reply) (l : ReplyTo) : Prop where
  content : e.message g.keys.main = .ok (.reply r)
  receivers : e.replyTo g.keys.main = .ok (some l)
  names : (l.map Prod.fst).Nodup
  sets : ∀ x ∈ l, x.2.Nodup

/-- Every request that waits has a caller of its own. -/
def Owned (g : Gateway) : Prop :=
  ∀ p s q u k, g.pending? p s = some k → g.pending? q u = some k → (q, u) = (p, s)

/-- One of the listed requests has a caller that waits for it. -/
def Attended (g : Gateway) (p : ProtocolName) (subscribers : List Subscriber) : Prop :=
  ∃ n k, .once n ∈ subscribers ∧ g.pending? p n = some k ∧ g.exchanges[k]? = some .waiting

/-- One of the listed requests is on record though its caller has gone. -/
def Deserted (g : Gateway) (p : ProtocolName) (subscribers : List Subscriber) : Prop :=
  ∃ n k, .once n ∈ subscribers ∧ g.pending? p n = some k ∧ g.exchanges[k]? ≠ some .waiting

theorem fanOut_brings {e : Envelope} {r : Reply} {l : ReplyTo} (brings : g.Brings e r l) :
    (g.fanOut e).1 = l.foldl (fun g x => g.answerProtocol (.reply r) x.1 x.2) g := by
  unfold fanOut
  rw [brings.receivers, brings.content]
  rfl

theorem mem_receipts {l : ReplyTo} {subscribers : List Subscriber} (listed : (p, subscribers) ∈ l)
    {n : Sequence} (waits : .once n ∈ subscribers) : (p, n) ∈ receipts l :=
  List.mem_flatMap.mpr ⟨_, listed, List.mem_map_of_mem (mem_sequences.mpr waits)⟩

theorem caller_fanOut {e : Envelope} {r : Reply} {l : ReplyTo} (brings : g.Brings e r l)
    (owned : g.Owned) {subscribers : List Subscriber} (listed : (p, subscribers) ∈ l) {n : Sequence}
    {k : Ticket} (waits : .once n ∈ subscribers) (pending : g.pending? p n = some k)
    (waiting : g.exchanges[k]? = some .waiting) :
    (g.fanOut e).1.exchanges[k]? = some (.resolved (.reply (r.retagged n))) := by
  have traffic := g.traffic_answerAll (.reply r) l
  rw [← fanOut_brings brings] at traffic
  have exchanges : (g.fanOut e).1.exchanges =
      ((receipts l).foldl (·.resolve (.reply r)) g.traffic).exchanges := congrArg Traffic.exchanges traffic
  rw [exchanges]
  refine (Traffic.caller_resolveAll (t := g.traffic) waiting ?_ (fun q u same => ?_) (.reply r)
    (receipts l)).1 (mem_receipts listed waits)
  · rw [← pending, pending?_eq]
    rfl
  · refine owned p n q u k pending ?_
    rw [← same, pending?_eq]
    rfl

end Gateway

/-- What becomes of a reply for a protocol that is listed as standing. When callers wait for requests of
the protocol that are listed too, they get it and nothing is pushed. When none of these requests is on
record, the reply is pushed once. When the only ones on record are those whose callers have gone, it is
not pushed either, and lost. What has been pushed is heard in its turn, whatever happens next. -/
theorem standing_observer_notified (g : Gateway) (e : Envelope) (r : Reply) (l : ReplyTo)
    (p : ProtocolName) (subscribers : List Subscriber) (rs : List Reply) (brings : g.Brings e r l)
    (owned : g.Owned) (listed : (p, subscribers) ∈ l) (stands : .standing ∈ subscribers)
    (hears : g.Hears p rs) :
    let g' := (g.fanOut e).1
    (∀ n k, .once n ∈ subscribers → g.pending? p n = some k → g.exchanges[k]? = some .waiting →
      g'.exchanges[k]? = some (.resolved (.reply (r.retagged n)))) ∧
    (g.Attended p subscribers → g'.Hears p rs) ∧
    (¬g.Attended p subscribers → ¬g.Deserted p subscribers → g'.Hears p (rs ++ [r])) ∧
    (¬g.Attended p subscribers → g.Deserted p subscribers → g'.Hears p rs) ∧
    ∀ rs', g'.Hears p rs' → ∀ events, ∃ more,
      (g'.runAll events).Hears p (rs' ++ more) ∧
      (g.Awake → (g'.runAll events).tasks = [] → (g'.runAll events).heard p = rs' ++ more) := by
  intro g'
  have reached : g'.Hears p
      (if ∃ n, .once n ∈ subscribers ∧ (g.pending? p n).isSome then rs else rs ++ [r]) := by
    have answered := hears.answerAll r brings.names listed (brings.sets _ listed) stands
    rw [← Gateway.fanOut_brings brings] at answered
    exact answered
  have recorded {n : Sequence} {k : Ticket} (waits : .once n ∈ subscribers)
      (pending : g.pending? p n = some k) : g'.Hears p rs := by
    rwa [if_pos ⟨n, waits, by simp [pending]⟩] at reached
  refine ⟨fun n k waits pending waiting => Gateway.caller_fanOut brings owned listed waits pending waiting,
    fun ⟨n, k, waits, pending, _⟩ => recorded waits pending, fun alone present => ?_,
    fun _ ⟨n, k, waits, pending, _⟩ => recorded waits pending, fun rs' hears' events => ?_⟩
  · rwa [if_neg] at reached
    rintro ⟨n, waits, onRecord⟩
    obtain ⟨k, pending⟩ := Option.isSome_iff_exists.mp onRecord
    by_cases waiting : g.exchanges[k]? = some .waiting
    · exact alone ⟨n, k, waits, pending, waiting⟩
    · exact present ⟨n, k, waits, pending, waiting⟩
  · have follows : Gateway.Follows p g' (g'.runAll events) := Gateway.follows_runAll events
    obtain ⟨more, later⟩ := follows.grows rs' hears'
    refine ⟨more, later, fun awake still => later.at_rest (follows.awake ?_) still⟩
    change (g.fanOut e).1.Awake
    rw [Gateway.fanOut_brings brings]
    exact (Gateway.stirs_answerAll (.reply r) l).awake awake

def Gateway.reading (caller : Exchange) : Gateway :=
  { Gateway.new .standard .off with
    phase := .running
    plugins := [(.of "app", ⟨.origin (.new (.of "app")), [(1, 0)], .wired⟩)]
    exchanges := [caller] }

theorem Gateway.owned_reading (caller : Exchange) : (reading caller).Owned := by
  have only (p : ProtocolName) (s : Sequence) (k : Ticket)
      (waits : (reading caller).pending? p s = some k) : (p, s) = (.of "app", 1) := by
    unfold pending? entry? reading at waits
    by_cases mine : .of "app" = p
    · subst mine
      by_cases first : 1 = s
      · rw [first]
      · simp [Table.at?, first] at waits
    · simp [Table.at?, mine] at waits
  intro p s q u k first second
  rw [only p s k first, only q u k second]

def notifying (subscribers : List Subscriber) : Envelope :=
  (Keyring.minted 0).answering (.reply (.notification .observe "dev" "/temp" { payload := [21] }))
    (.of "coap") [(.of "app", subscribers)] 4

theorem Gateway.brings_notifying (caller : Exchange) {subscribers : List Subscriber}
    (single : subscribers.Nodup) :
    (reading caller).Brings (notifying subscribers)
      (.notification .observe "dev" "/temp" { payload := [21] }) [(.of "app", subscribers)] where
  content := rfl
  receivers := rfl
  names := List.nodup_singleton _
  sets x member := by
    rw [List.mem_singleton.mp member]
    exact single

theorem Gateway.hears_reading (caller : Exchange) : (reading caller).Hears (.of "app") [] :=
  ⟨_, rfl, rfl, rfl, rfl⟩

theorem notified_or_answered :
    let r : Reply := .notification .observe "dev" "/temp" { payload := [21] }
    let answered := ((Gateway.reading .waiting).fanOut (notifying [.standing, .once 1])).1
    let pushed := ((Gateway.reading .waiting).fanOut (notifying [.standing])).1
    answered.exchanges[0]? = some (.resolved (.reply (r.retagged 1))) ∧
      answered.Hears (.of "app") [] ∧ pushed.Hears (.of "app") [r] := by
  intro r answered pushed
  have attended : (Gateway.reading .waiting).Attended (.of "app") [.standing, .once 1] :=
    ⟨1, 0, by decide, by decide +kernel, rfl⟩
  have nobody (n : Sequence) : .once n ∉ [Subscriber.standing] := by simp
  obtain ⟨reached, quiet, _⟩ := standing_observer_notified (.reading .waiting)
    (notifying [.standing, .once 1]) r _ (.of "app") _ [] (Gateway.brings_notifying .waiting (by decide))
    (Gateway.owned_reading .waiting) List.mem_cons_self List.mem_cons_self (Gateway.hears_reading .waiting)
  obtain ⟨_, _, alone, _⟩ := standing_observer_notified (.reading .waiting)
    (notifying [.standing]) r _ (.of "app") _ [] (Gateway.brings_notifying .waiting (by decide))
    (Gateway.owned_reading .waiting) List.mem_cons_self List.mem_cons_self (Gateway.hears_reading .waiting)
  exact ⟨reached 1 0 (by decide) (by decide +kernel) rfl, quiet attended,
    alone (fun ⟨n, _, waits, _⟩ => nobody n waits) fun ⟨n, _, waits, _⟩ => nobody n waits⟩

/-- A request whose caller has stopped waiting takes the notification, and nobody hears of it. -/
theorem notification_lost :
    ¬∀ (g : Gateway) (e : Envelope) (r : Reply) (l : ReplyTo) (p : ProtocolName)
      (subscribers : List Subscriber) (rs : List Reply), g.Brings e r l → g.Owned →
      (p, subscribers) ∈ l → .standing ∈ subscribers → g.Hears p rs → ¬g.Attended p subscribers →
      (g.fanOut e).1.Hears p (rs ++ [r]) := by
  intro all
  have alone : ¬(Gateway.reading .abandoned).Attended (.of "app") [.standing, .once 1] := by
    rintro ⟨n, k, _, pending, waiting⟩
    have ticket := List.getElem?_eq_some_iff.mp waiting
    obtain ⟨bound, gone⟩ := ticket
    have first : k = 0 := Nat.lt_one_iff.mp bound
    subst first
    cases gone
  obtain ⟨e, found, mine⟩ := all (.reading .abandoned) (notifying [.standing, .once 1]) _ _ (.of "app") _ []
    (Gateway.brings_notifying .abandoned (by decide)) (Gateway.owned_reading .abandoned)
    List.mem_cons_self List.mem_cons_self (Gateway.hears_reading .abandoned) alone
  have unheard : Option.map PluginEntry.notified
      (Gateway.entry? ((Gateway.reading .abandoned).fanOut (notifying [.standing, .once 1])).1
        (.of "app")) = some [] := by decide +kernel
  rw [found, Option.map_some, mine.replies] at unheard
  cases unheard

end ProtocolGateway
