import Mathlib
import ProtocolGateway.Proofs.Gateway.Effects

/-!
Hops as steps of the traffic. Every lawful hop is let pass, and what its stage makes of it is one of
the steps.
-/

namespace ProtocolGateway

open Traffic (Step)

namespace Gateway

theorem pass_own {e : Envelope} {main : Token} (own : e.main = main) :
    e.pass main = .ok { e with hops := e.hops + 1 } := by
  simp [Envelope.pass, Envelope.isMain, own]

theorem checkHop_lawful (g : Gateway) {hop : Hop} (lawful : Lawful g.keys hop) :
    g.checkHop hop = .ok { hop.envelope with hops := hop.envelope.hops + 1 } := by
  have own : hop.envelope.main = g.keys.main := by cases lawful <;> rfl
  unfold checkHop
  rw [pass_own own]
  cases lawful with
  | entering r p | admitted r p | arriving m p => simp [Stage.canForward, Stage.successors]
  | answering m p l hops answer receivers early => simp [Stage.canForward, Stage.successors]
  | routed r p target =>
    have content : (g.keys.routed r p target).content = .request r := rfl
    have hops : (g.keys.routed r p target).hops = 2 := rfl
    simp [Stage.canForward, Stage.successors, isExpected, content, hops, Message.kind]
  | leaving m p l hops answer receivers early =>
    have content : (g.keys.answering m p l (hops + 1)).content = m := rfl
    have count : (g.keys.answering m p l (hops + 1)).hops = hops + 1 := rfl
    have kind : m.kind ≠ .request := by
      cases m with
      | request r => cases answer
      | reply r | error e => simp [Message.kind]
    simp [Stage.canForward, Stage.successors, isExpected, content, count, kind]
    omega

theorem traffic_follow (g : Gateway) (r : StageResult) :
    (g.follow r).traffic = { g.traffic with hops := g.traffic.onward g.hops (Traffic.sent r) } := by
  match r with
  | .ok none => rfl
  | .ok (some hop) => exact g.traffic_forward hop
  | .error (.fault _) => rfl
  | .error .clockOverflow => rfl

/-- A lawful hop is let pass, and what its stage makes of it is sent on. -/
theorem dispatch_received {g g' : Gateway} {hop : Hop} {r : StageResult} (lawful : Lawful g.keys hop)
    (received : g.countForwarded.receiveAt hop { hop.envelope with hops := hop.envelope.hops + 1 } =
      (g', r)) : g.dispatch hop = g'.follow r := by
  unfold dispatch
  rw [checkHop_lawful g lawful]
  dsimp only
  rw [received]

theorem traffic_dispatch {g g' : Gateway} {hop : Hop} {r : StageResult} (lawful : Lawful g.keys hop)
    (received : g.countForwarded.receiveAt hop { hop.envelope with hops := hop.envelope.hops + 1 } =
      (g', r)) :
    (g.dispatch hop).traffic =
      { g'.traffic with hops := g'.traffic.onward g'.traffic.hops (Traffic.sent r) } := by
  rw [dispatch_received lawful received]
  exact traffic_follow g' r

theorem taskNotes_lawful {g : Gateway} {hop : Hop} (lawful : Lawful g.keys hop) :
    g.taskNotes (.forward hop) =
      g.hopNotes hop { hop.envelope with hops := hop.envelope.hops + 1 } := by
  unfold taskNotes
  dsimp only
  rw [checkHop_lawful g lawful]

/-! Tasks that are taken -/

theorem split_tasks {tasks : List Task} {i : Nat} {t : Task} (found : tasks[i]? = some t) :
    ∃ before after, tasks = before ++ t :: after ∧ tasks.eraseIdx i = before ++ after := by
  obtain ⟨bound, here⟩ := List.getElem?_eq_some_iff.mp found
  refine ⟨tasks.take i, tasks.drop (i + 1), ?_, List.eraseIdx_eq_take_drop_succ tasks i⟩
  rw [← here, List.getElem_cons_drop, List.take_append_drop]

/-! The manager's ends -/

theorem check_main {e : Envelope} {main : Token} (own : e.main = main) (field : EnvelopeField) :
    e.check main field = .ok () := by
  simp [Envelope.check, Envelope.allows, Envelope.isMain, own]

theorem fanOut_answering (g : Gateway) (m : Message) (p : ProtocolName) (l : ReplyTo) (hops : Nat) :
    g.fanOut (g.keys.answering m p l hops) =
      (l.foldl (fun g r => g.answerProtocol m r.1 r.2) g, .ok none) := by
  have own : (g.keys.answering m p l hops).main = g.keys.main := rfl
  have content : (g.keys.answering m p l hops).content = m := rfl
  have receivers : (g.keys.answering m p l hops).replyList = some l := rfl
  simp [fanOut, guarded, Envelope.replyTo, Envelope.message, check_main own, Except.map, content,
    receivers]

theorem readDelivery_routed (k : Keyring) (r : Request) (p target : ProtocolName) :
    readDelivery k.main { k.routed r p target with hops := 3 } = .ok (r, target) := by
  let e : Envelope := { k.routed r p target with hops := 3 }
  have own : e.main = k.main := rfl
  have content : e.content = .request r := rfl
  have goal : e.targetProtocol = some target := rfl
  change readDelivery k.main e = _
  simp [readDelivery, guarded, Envelope.target, Envelope.message, check_main own, Except.map, content,
    goal, bind, Except.bind]

theorem deliver_handed (g : Gateway) (r : Request) (p target : ProtocolName) :
    g.deliver { g.keys.routed r p target with hops := 3 } =
      match g.hand r target with
      | (g', .ok ()) => (g', .ok none)
      | (g', .error detail) => (g', .ok (some ⟨.manager, .interconnection,
          g'.keys.wrap (.error (unavailable r target detail)) target⟩)) := by
  cases handed : g.hand r target with
  | mk g' outcome =>
    cases outcome <;>
      · unfold deliver
        rw [readDelivery_routed]
        dsimp only
        rw [handed]

theorem deliver_routed (g : Gateway) (r : Request) (p target : ProtocolName) :
    g.deliver { g.keys.routed r p target with hops := 3 } =
        ((g.send target (.toB (.request r))).1, .ok none) ∨
      ∃ detail, g.deliver { g.keys.routed r p target with hops := 3 } =
        (g, .ok (some ⟨.manager, .interconnection,
          g.keys.wrap (.error (unavailable r target detail)) target⟩)) := by
  rw [deliver_handed]
  rcases g.hand_cases r target with ⟨detail, refused⟩ | handed
  · rw [refused]
    exact Or.inr ⟨detail, rfl⟩
  · rw [handed]
    exact Or.inl rfl

/-! The step of a hop -/

theorem missed_hops (t : Traffic) (hops : List Hop) (m : Message)
    (xs : List (ProtocolName × Sequence)) :
    ({ t with hops := hops } : Traffic).missed m xs = t.missed m xs := by
  induction xs generalizing t with
  | nil => rfl
  | cons x rest ih =>
    have moved : ({ t with hops := hops } : Traffic).resolve m x =
        { t.resolve m x with hops := hops } := by
      unfold Traffic.resolve
      dsimp only
      cases Table.at? (t.pending x.1) x.2 <;> rfl
    unfold Traffic.missed
    rw [moved, ih]

theorem receiveAt_interconnection (g : Gateway) (source : Stage) {e : Envelope}
    {ic : Interconnection} {r : StageResult}
    (crossing : g.interconnection.receive g.instant source e = (ic, r)) (e' : Envelope) :
    g.receiveAt ⟨source, .interconnection, e'⟩ e = ({ g with interconnection := ic }, r) := by
  unfold receiveAt
  dsimp only
  rw [crossing]

theorem hopNotes_interconnection (g : Gateway) (source : Stage) {e : Envelope} {p : ProtocolName}
    {ic : Interconnection} {r : StageResult} (sender : e.sourceProtocol = some p)
    (crossing : g.interconnection.receive g.instant source e = (ic, r)) (e' : Envelope) :
    g.hopNotes ⟨source, .interconnection, e'⟩ e = .crossed p e.content :: breakNotes r := by
  cases source <;> simp only [hopNotes, sender, crossing, List.singleton_append]

theorem step_dispatch (g : Gateway) (orderly : g.traffic.Orderly) {before after : List Task}
    {hop : Hop} (split : g.tasks = before ++ .forward hop :: after) :
    Step g.traffic (g.taskNotes (.forward hop))
      (({ g with tasks := before ++ after } : Gateway).dispatch hop).traffic := by
  let rest : Gateway := { g with tasks := before ++ after }
  let bs := before.filterMap Task.hop?
  let cs := after.filterMap Task.hop?
  have hops : g.traffic.hops = bs ++ hop :: cs := by
    change g.tasks.filterMap Task.hop? = _
    rw [split, List.filterMap_append, List.filterMap_cons]
    rfl
  -- The hop is gone from the tasks before its stage is asked.
  have left : rest.countForwarded.traffic = { g.traffic with hops := bs ++ cs } := by
    change { g.traffic with hops := (before ++ after).filterMap Task.hop? } = _
    rw [List.filterMap_append]
  have lawful : Lawful g.keys hop := orderly.lawful hop (by rw [hops]; simp)
  rw [taskNotes_lawful lawful]
  -- One case per place on the way: the stage's own lemma says what comes out.
  have token := orderly.token
  have keyed := orderly.keyed
  cases lawful with
  | entering r p sequenced =>
    have received := congrArg (Prod.mk rest.countForwarded)
      (InputStage.receive_asking g.keys r p 1 sequenced)
    rw [traffic_dispatch (g := rest) (.entering r p sequenced) received, left]
    exact .admitted bs cs r p sequenced hops
  | admitted r p sequenced =>
    obtain ⟨ic, out, crossing, takes⟩ :=
      Interconnection.onRequest_takes (k := g.keys) token keyed g.instant p sequenced
    have received := receiveAt_interconnection rest.countForwarded .input crossing
      (g.keys.asking r p 1)
    change Step g.traffic (g.hopNotes _ (g.keys.asking r p 2)) _
    rw [hopNotes_interconnection g .input rfl crossing,
      traffic_dispatch (g := rest) (.admitted r p sequenced) received]
    have placed : ({ rest.countForwarded with interconnection := ic } : Gateway).traffic =
        { g.traffic with interconnection := ic, hops := bs ++ cs } :=
      congrArg (fun t : Traffic => { t with interconnection := ic }) left
    rw [placed]
    exact .taken bs cs r p ic out hops takes
  | arriving m p =>
    obtain ⟨ic, result, crossing, hears⟩ :=
      Interconnection.onAnswer_hears (k := g.keys) token keyed g.instant m p
    have received := receiveAt_interconnection rest.countForwarded .manager crossing
      (g.keys.wrap m p)
    change Step g.traffic (g.hopNotes _ (g.keys.heard m p)) _
    rw [hopNotes_interconnection g .manager rfl crossing,
      traffic_dispatch (g := rest) (.arriving m p) received]
    have placed : ({ rest.countForwarded with interconnection := ic } : Gateway).traffic =
        { g.traffic with interconnection := ic, hops := bs ++ cs } :=
      congrArg (fun t : Traffic => { t with interconnection := ic }) left
    rw [placed]
    exact .heard bs cs m p ic result hops hears
  | routed r p target =>
    rcases rest.countForwarded.deliver_routed r p target with handed | ⟨detail, handed⟩
    · rw [traffic_dispatch (g := rest) (.routed r p target) handed,
        traffic_send_other _ _ _ rfl, left]
      exact .delivered bs cs r p target none hops (Or.inl rfl)
    · rw [traffic_dispatch (g := rest) (.routed r p target) handed, left]
      exact .delivered bs cs r p target _ hops (Or.inr ⟨_, target, rfl⟩)
  | answering m p l count answer receivers early =>
    have received := congrArg (Prod.mk rest.countForwarded)
      (OutputStage.receive_answering g.keys m p l (count + 1) answer receivers)
    rw [traffic_dispatch (g := rest) (.answering m p l count answer receivers early) received, left]
    exact .released bs cs m p l count answer receivers early hops
  | leaving m p l count answer receivers early =>
    have received := rest.countForwarded.fanOut_answering m p l (count + 2)
    rw [traffic_dispatch (g := rest) (.leaving m p l count answer receivers early) received,
      traffic_answerAll, left]
    change Step g.traffic (g.missed m l) _
    rw [missed_eq]
    exact .resolved bs cs m p l (count + 1) hops answer

end Gateway

end ProtocolGateway
