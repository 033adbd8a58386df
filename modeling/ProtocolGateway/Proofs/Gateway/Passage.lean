import Mathlib
import ProtocolGateway.Proofs.Gateway.Cargo
import ProtocolGateway.Proofs.Gateway.Order
import ProtocolGateway.Proofs.Routing.Visits

/-!
How a hop passes its stage. A hop that the gateway itself has made is let pass, its stage fails only
where an answer finds no resource or nobody to go to, and what it sends on is nearer to the end.
-/

namespace ProtocolGateway

/-- The hops a value can still cause from here on, this one counted. A request takes six when its
target is out of reach, an answer three. -/
def Hop.remaining (hop : Hop) : Nat :=
  match hop.source, hop.target with
  | .manager, .input => 6
  | .input, .interconnection => 5
  | .interconnection, .manager => 4
  | .manager, .interconnection => 3
  | .interconnection, .output => 2
  | .output, .manager => 1
  | _, _ => 0

theorem Hop.remaining_le (hop : Hop) : hop.remaining ≤ 6 := by
  unfold remaining
  split <;> omega

def Hop.Answers (hop : Hop) : Prop :=
  hop.source = .manager → hop.target = .interconnection → hop.envelope.content.isReplyLike = true

def RoutingError.Undeliverable : RoutingError → Prop
  | .noSubscription _ | .invalidReplyUri _ => True
  | _ => False

theorem Keyring.heard_open (k : Keyring) (m : Message) (p : ProtocolName) :
    (k.heard m p).IsOpen k.interconnection := by
  intro field
  cases field <;> simp [Envelope.allows, Keyring.heard, Keyring.wrap, Keyring.grants]

namespace Interconnection

theorem readAnswer_fault {k : Keyring} {m : Message} {p : ProtocolName} {h : Halt}
    (answer : m.isReplyLike = true)
    (failed : readAnswer k.interconnection (k.heard m p) = .error h) :
    ∃ cause, h = .fault (.invalidReplyUri cause) := by
  have content : (k.heard m p).content = m := rfl
  have sender : (k.heard m p).sourceProtocol = some p := rfl
  cases named : ResourceUri.ofParts p.text m.headers.target m.headers.path with
  | ok uri =>
    rw [readAnswer_open (k.heard_open m p) content answer sender named] at failed
    cases failed
  | error cause =>
    refine ⟨cause, ?_⟩
    simp [readAnswer, guarded, Envelope.message, Envelope.source,
      Envelope.check_open (k.heard_open m p), content, sender, answer, named, Except.map, bind,
      Except.bind, halt] at failed
    exact failed.symm

/-- Of an answer, the stage faults only an unknown resource or one that nobody waits for. -/
theorem onAnswer_fault {ic : Interconnection} {k : Keyring} (token : ic.token = k.interconnection)
    (now : Instant) {m : Message} (p : ProtocolName) (answer : m.isReplyLike = true)
    {cause : RoutingError} (failed : (ic.onAnswer now (k.heard m p)).2 = .error (.fault cause)) :
    cause.Undeliverable := by
  cases read : readAnswer ic.token (k.heard m p) with
  | error h =>
    rw [onAnswer_unread read] at failed
    cases failed
    obtain ⟨_, same⟩ := readAnswer_fault answer (token ▸ read)
    cases same
    trivial
  | ok about =>
    obtain ⟨ic', r, crossing, released⟩ := onAnswer_released now read
    rw [crossing] at failed
    cases released with
    | unlisted =>
      cases failed
      trivial
    | brokenOff => cases failed
    | settled =>
      rw [token, Envelope.write_open (k.heard_open m p)] at failed
      cases failed

end Interconnection

namespace Gateway

/-! One hop -/

/-- What becomes of a hop at its stage. -/
structure Receives (g : Gateway) (hop : Hop) (g' : Gateway) (r : StageResult) : Prop where
  course : g'.course = { g.course with interconnection := g'.interconnection }
  hops : g'.hops = g.hops
  fault : ∀ cause, r = .error (.fault cause) →
    hop.source = .manager ∧ hop.target = .interconnection ∧ cause.Undeliverable
  next : ∀ out, r = .ok (some out) → out.remaining < hop.remaining ∧ out.Answers

theorem course_own {g g' : Gateway} (same : g'.course = g.course) :
    g'.course = { g.course with interconnection := g'.interconnection } := by
  rw [same]
  exact congrArg (fun c => { g.course with interconnection := c })
    (congrArg Course.interconnection same).symm

theorem receives_lawful (g : Gateway) (token : g.interconnection.token = g.keys.interconnection)
    (keyed : g.interconnection.subscriptions.Keyed) {hop : Hop} (lawful : Lawful g.keys hop)
    (answers : hop.Answers) :
    ∃ g' r, g.receiveAt hop { hop.envelope with hops := hop.envelope.hops + 1 } = (g', r) ∧
      Receives g hop g' r := by
  -- One case per place on the way, each with the hops that are left before and after it.
  cases lawful with
  | entering r p sequenced =>
    refine ⟨g, _, congrArg (Prod.mk g) (InputStage.receive_asking g.keys r p 1 sequenced), rfl, rfl,
      fun _ failed => (nomatch failed), fun out sent => ?_⟩
    cases sent
    exact ⟨(by decide : 5 < 6), fun source => nomatch source⟩
  | admitted r p sequenced =>
    obtain ⟨ic, out, crossing, takes⟩ :=
      Interconnection.onRequest_takes (k := g.keys) token keyed g.instant p sequenced
    refine ⟨_, _, receiveAt_interconnection g .input crossing (g.keys.asking r p 1), rfl, rfl,
      fun _ failed => (nomatch failed), fun hop sent => ?_⟩
    cases sent
    cases takes with
    | refused | cached | acknowledged => exact ⟨(by decide : 2 < 5), fun source => nomatch source⟩
    | enrolled _ _ _ _ _ _ _ _ _ next =>
      rcases next with none | some
      · cases none
      · cases some
        exact ⟨(by decide : 4 < 5), fun source => nomatch source⟩
  | arriving m p =>
    obtain ⟨ic, result, crossing, hears⟩ :=
      Interconnection.onAnswer_hears (k := g.keys) token keyed g.instant m p
    refine ⟨_, _, receiveAt_interconnection g .manager crossing (g.keys.wrap m p), rfl, rfl,
      fun cause failed => ⟨rfl, rfl, ?_⟩, fun out sent => ?_⟩
    · have result : (g.interconnection.onAnswer g.instant (g.keys.heard m p)).2 =
          .error (.fault cause) := (congrArg Prod.snd crossing).trans failed
      exact Interconnection.onAnswer_fault token g.instant p (answers rfl rfl) result
    · cases hears with
      | unreadable | unmatched | brokenOff => cases sent
      | matched =>
        cases sent
        exact ⟨(by decide : 2 < 3), fun source => nomatch source⟩
  | routed r p target =>
    rcases g.deliver_routed r p target with handed | ⟨detail, handed⟩
    · exact ⟨_, _, handed, course_own (g.course_send target _),
        congrArg Traffic.hops (g.traffic_send_other target _ rfl), fun _ failed => (nomatch failed),
        fun out sent => nomatch sent⟩
    · refine ⟨g, _, handed, rfl, rfl, fun _ failed => (nomatch failed), fun out sent => ?_⟩
      cases sent
      exact ⟨(by decide : 3 < 4), fun _ _ => rfl⟩
  | answering m p l count answer receivers early =>
    refine ⟨g, _, congrArg (Prod.mk g)
      (OutputStage.receive_answering g.keys m p l (count + 1) answer receivers), rfl, rfl,
      fun _ failed => (nomatch failed), fun out sent => ?_⟩
    cases sent
    exact ⟨(by decide : 1 < 2), fun source => nomatch source⟩
  | leaving m p l count answer receivers early =>
    refine ⟨_, _, g.fanOut_answering m p l (count + 2), course_own (g.course_answerAll m l), ?_,
      fun _ failed => (nomatch failed), fun out sent => nomatch sent⟩
    have same := g.traffic_answerAll m l
    have beside := Traffic.beside_resolveAll g.traffic m (receipts l)
    exact (congrArg Traffic.hops same).trans beside.hops

/-! What is sent on -/

structure Adds (g g' : Gateway) (made : List Hop) : Prop where
  hops : g'.hops = g.hops ++ made
  alone : made.length ≤ 1
  dropped : g.phase = .running → g'.counters.dropped = g.counters.dropped

theorem Adds.none {g g' : Gateway} (hops : g'.hops = g.hops)
    (dropped : g'.counters.dropped = g.counters.dropped) : Adds g g' [] :=
  ⟨hops.trans (List.append_nil _).symm, Nat.zero_le 1, fun _ => dropped⟩

theorem adds_forward (g : Gateway) (hop : Hop) :
    ∃ made, Adds g (g.forward hop) made ∧ made ⊆ [hop] ∧
      (g.forward hop).counters.forwarded = g.counters.forwarded := by
  have sent := congrArg Traffic.hops (g.traffic_forward hop)
  change (g.forward hop).hops = g.traffic.onward g.hops (some hop) at sent
  by_cases running : g.phase = .running
  · have forward : g.forward hop = g.enqueue (.forward hop) := by
      unfold Gateway.forward isRunning
      simp [running]
    rw [Traffic.onward_running (t := g.traffic) running] at sent
    exact ⟨[hop], ⟨sent, Nat.le_refl 1, fun _ => by rw [forward]; rfl⟩, List.Subset.refl _,
      by rw [forward]; rfl⟩
  · have forward : g.forward hop = g.countDropped := by
      unfold Gateway.forward isRunning
      simp [running]
    have stays : g.traffic.onward g.hops (some hop) = g.hops := by
      unfold Traffic.onward
      exact if_neg running
    exact ⟨[], ⟨(sent.trans stays).trans (List.append_nil _).symm, Nat.zero_le 1,
      fun still => absurd still running⟩, List.nil_subset _, by rw [forward]; rfl⟩

/-- A hop that is let pass is counted once and sends on one hop at most, nearer to the end. -/
theorem dispatch_lawful (g : Gateway) (token : g.interconnection.token = g.keys.interconnection)
    (keyed : g.interconnection.subscriptions.Keyed) {hop : Hop} (lawful : Lawful g.keys hop)
    (answers : hop.Answers) :
    (∃ made, Adds g (g.dispatch hop) made ∧ ∀ out ∈ made, out.remaining < hop.remaining) ∧
      (g.dispatch hop).counters.forwarded = g.counters.forwarded + 1 := by
  obtain ⟨g', r, received, receives⟩ := receives_lawful g.countForwarded token keyed lawful answers
  have course := receives.course
  have forwarded : g'.counters.forwarded = g.counters.forwarded + 1 :=
    congrArg Course.forwarded course
  have dropped : g'.counters.dropped = g.counters.dropped := congrArg Course.dropped course
  have phase : g'.phase = g.phase := congrArg Course.phase course
  have hops : g'.hops = g.hops := receives.hops
  rw [dispatch_received lawful received]
  match r with
  | .ok none | .error (.fault _) | .error .clockOverflow =>
    exact ⟨⟨[], .none hops dropped, fun _ member => nomatch member⟩, forwarded⟩
  | .ok (some out) =>
    obtain ⟨made, adds, only, same⟩ := g'.adds_forward out
    refine ⟨⟨made, ⟨hops ▸ adds.hops, adds.alone, fun running => ?_⟩, fun out' member => ?_⟩,
      same.trans forwarded⟩
    · exact (adds.dropped (phase.trans running)).trans dropped
    · rw [List.mem_singleton.mp (only member)]
      exact (receives.next out rfl).1

theorem adds_handOver (g : Gateway) (p : ProtocolName) (parcel : Parcel Outbound Inbound) :
    ∃ made, Adds g (g.handOver p parcel) made ∧
      (g.handOver p parcel).counters.forwarded = g.counters.forwarded := by
  have handed := g.handOver_cases p parcel
  generalize g.handOver p parcel = g' at handed ⊢
  cases handed with
  | lost | unheard => exact ⟨[], .none rfl rfl, rfl⟩
  | asks | answers =>
    obtain ⟨made, adds, _, forwarded⟩ := g.adds_forward _
    exact ⟨made, adds, forwarded⟩
  | handled | pushed => exact ⟨[], .none (congrArg Traffic.hops (g.traffic_setPlugin p _)) rfl, rfl⟩
  | responds e r found =>
    have still := congrArg Traffic.hops (g.traffic_setPlugin p (e.plugin.handleRequest r).1)
    have queued := congrArg Traffic.hops (traffic_respond_enqueued
      (g.setPlugin p (e.plugin.handleRequest r).1) p (e.plugin.handleRequest r).2)
    exact ⟨[], .none (queued.trans still) rfl, rfl⟩

theorem adds_consume (g : Gateway) (p : ProtocolName) :
    ∃ made, Adds g (g.consume p) made ∧ (g.consume p).counters.forwarded = g.counters.forwarded := by
  rcases g.consume_cases p with idle | ⟨e, parcel, sink, _, _, given⟩
  · rw [idle]
    exact ⟨[], .none rfl rfl, rfl⟩
  · obtain ⟨made, adds, forwarded⟩ :=
      (g.updateEntry p fun e => { e with sink := sink }).adds_handOver p parcel
    rcases given with last | more
    · rw [last]
      exact ⟨made, ⟨adds.hops, adds.alone, adds.dropped⟩, forwarded⟩
    · have first := congrArg Traffic.hops (traffic_enqueueFirst
        ((g.updateEntry p fun e => { e with sink := sink }).handOver p parcel) (t := .consume p) rfl)
      rw [more]
      exact ⟨made, ⟨first.trans adds.hops, adds.alone, adds.dropped⟩, forwarded⟩

end Gateway

end ProtocolGateway
