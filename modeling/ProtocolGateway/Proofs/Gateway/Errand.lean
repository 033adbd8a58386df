import Mathlib
import ProtocolGateway.Proofs.Gateway.Custody
import ProtocolGateway.Proofs.Plugin.TargetAnswers
import ProtocolGateway.Proofs.Routing.Hearing

/-!
What is under way for one request. Once its target has been told, only a few messages are on their
way, all about the same resource, and whatever happens first belongs to them.
-/

namespace ProtocolGateway

open Gateway (Frame)

/-! Callers -/

namespace Traffic

variable {t : Traffic}

/-- A caller that waits under one number alone gets the message if its number is among those that are
resolved, and waits on if it is not. -/
theorem caller_resolveAll {p : ProtocolName} {s : Sequence} {k : Ticket}
    (waiting : t.exchanges[k]? = some .waiting) (pending : Table.at? (t.pending p) s = some k)
    (alone : ∀ q u, Table.at? (t.pending q) u = some k → (q, u) = (p, s)) (m : Message)
    (xs : List (ProtocolName × Sequence)) :
    ((p, s) ∈ xs →
      (xs.foldl (·.resolve m) t).exchanges[k]? = some (.resolved (Gateway.resolutionOf m s))) ∧
    ((p, s) ∉ xs → (xs.foldl (·.resolve m) t).exchanges[k]? = some .waiting ∧
      Table.at? ((xs.foldl (·.resolve m) t).pending p) s = some k) := by
  induction xs generalizing t with
  | nil => exact ⟨fun member => (nomatch member), fun _ => ⟨waiting, pending⟩⟩
  | cons x rest ih =>
    have exchange := t.exchange_resolve m x k
    by_cases here : x = (p, s)
    · subst here
      have given : (t.resolve m (p, s)).exchanges[k]? =
          some (.resolved (Gateway.resolutionOf m s)) := by
        rw [exchange, if_pos ⟨pending, waiting⟩]
      exact ⟨fun _ => resolved_resolveAll given m rest, fun absent => absurd List.mem_cons_self absent⟩
    · have waiting' : (t.resolve m x).exchanges[k]? = some .waiting := by
        -- Nobody else waits with this ticket.
        rw [exchange, if_neg fun both => here (alone x.1 x.2 both.1), waiting]
      have pending' : Table.at? ((t.resolve m x).pending p) s = some k := by
        rw [at?_resolve, if_neg here]
        exact pending
      obtain ⟨reached, spared⟩ := ih waiting' pending' fun q u waits =>
        alone q u (waits_resolve waits).2
      refine ⟨fun member => ?_, fun absent => ?_⟩
      · rcases List.mem_cons.mp member with same | later
        · exact absurd same.symm here
        · exact reached later
      · exact spared fun later => absent (List.mem_cons_of_mem x later)

end Traffic

/-! Messages on their way in -/

/-- How many messages of a kind a task brings to the interconnection stage. -/
def Task.brings (kind : Message → Bool) : Task → Nat
  | .consume _ => 0
  | .respond _ messages => messages.countP kind
  | .forward hop =>
    match hop.source, hop.target with
    | .manager, .interconnection => if kind hop.envelope.content then 1 else 0
    | _, _ => 0

def Parcel.brings (kind : Message → Bool) : Parcel Outbound Inbound → Nat
  | .toA (.answer m) => if kind m then 1 else 0
  | .toA (.request _) | .toB _ => 0

namespace Gateway

def coming (g : Gateway) (kind : Message → Bool) : Nat := g.burden (Task.brings kind) (Parcel.brings kind)

def carrying (g : Gateway) (p : ProtocolName) (s : Sequence) : Nat := g.burden (carried p s) fun _ => 0

end Gateway

structure Gateway.Frame.Ready (f : Frame) : Prop where
  running : f.phase = .running
  names : f.names.Nodup
  listens : ∀ p o, f.outlook p = some o → o.listens = true

/-! Errands -/

/-- A request whose target has been told: who waits for it, what is to be answered, and what may be
said, by whom and about which resource. -/
structure Errand where
  protocol : ProtocolName
  sequence : Sequence
  ticket : Ticket
  answer : Option Answer
  sender : ProtocolName
  key : String
  tells : Message → Prop
  /-- How long the cache keeps what does not say so itself. -/
  lifetime : Option Span

namespace Errand

def Suits (e : Errand) (m : Message) : Prop :=
  ∀ a, e.answer = some a → a.Fits (Gateway.resolutionOf m e.sequence).outcome

inductive Moves (e : Errand) (f : Frame) : Task → Prop where
  | wakes (p : ProtocolName) : Moves e f (.consume p)
  | speaks (messages : List Message) (said : ∀ m ∈ messages, e.tells m)
      (present : (f.outlook e.sender).isSome) : Moves e f (.respond e.sender messages)
  | arrives (m : Message) (said : e.tells m) :
      Moves e f (.forward ⟨.manager, .interconnection, f.keys.wrap m e.sender⟩)
  | turns (m : Message) (p : ProtocolName) (l : ReplyTo) (hops : Nat) (suits : e.Suits m) :
      Moves e f (.forward ⟨.interconnection, .output, f.keys.answering m p l hops⟩)
  | leaves (m : Message) (p : ProtocolName) (l : ReplyTo) (hops : Nat) (suits : e.Suits m) :
      Moves e f (.forward ⟨.output, .manager, f.keys.answering m p l hops⟩)

inductive Fills (e : Errand) : ProtocolName → Parcel Outbound Inbound → Prop where
  | speaks (m : Message) (said : e.tells m) : Fills e e.sender (.toA (.answer m))
  | pushes (p : ProtocolName) (r : Reply) : Fills e p (.toB (.push r))

variable {e : Errand} {f : Frame} {g g' left : Gateway}

theorem Fills.gentle {p : ProtocolName} {x : Parcel Outbound Inbound} (fills : e.Fills p x) :
    x.Gentle := by
  cases fills <;> trivial

structure Goes (e : Errand) (f : Frame) (g : Gateway) : Prop where
  orderly : g.traffic.Orderly
  frame : g.frame = f
  awake : g.Awake
  carries : Gateway.Carries (e.Moves f) e.Fills g

/-- What the gateway is after a message has been heard: the stage has changed, and the hop of the
message has become the one that the stage sends on. -/
structure Passed (g : Gateway) (hop : Hop) (ic : Interconnection) (result : StageResult)
    (g' : Gateway) : Prop where
  stage : g'.interconnection = ic
  pending : g'.pendingOf = g.pendingOf
  exchanges : g'.exchanges = g.exchanges
  burden : ∀ a b, g'.burden a b + a (.forward hop) =
    g.burden a b + total (fun hop => a (.forward hop)) (Traffic.sent result).toList

theorem passed_follow {hop : Hop} (running : g.phase = .running)
    (lacks : g.Lacks (.forward hop) left) (ic : Interconnection) (result : StageResult) :
    Passed g hop ic result (Gateway.follow { left.countForwarded with interconnection := ic } result) := by
  obtain ⟨h, heard⟩ : ∃ h : Gateway, { left.countForwarded with interconnection := ic } = h := ⟨_, rfl⟩
  have runs : h.phase = .running := by
    rw [← heard, lacks.whole]
    exact running
  have same : Gateway.Beside h (h.follow result) := Gateway.beside_follow result
  rw [heard]
  refine ⟨same.stage.trans (heard ▸ rfl), ?_, ?_, fun a b => ?_⟩
  · rw [same.pending, ← heard, lacks.whole]
    rfl
  · rw [same.exchanges, ← heard, lacks.whole]
    rfl
  · have left : h.burden a b + a (.forward hop) = g.burden a b := heard ▸ lacks.burden a b
    rw [Gateway.burden_follow_running runs]
    omega

/-- Whatever happened, the stage has heard nothing, nobody has begun to wait, and no message is lost. -/
structure Spares (g g' : Gateway) : Prop where
  stage : g'.interconnection = g.interconnection
  waits : ∀ p s k, Table.at? (g'.pendingOf p) s = some k → Table.at? (g.pendingOf p) s = some k
  exchanges : g'.exchanges.length = g.exchanges.length
  coming : ∀ kind, g.coming kind ≤ g'.coming kind

theorem Spares.of_beside (same : Gateway.Beside g g') (coming : ∀ kind, g.coming kind ≤ g'.coming kind) :
    Spares g g' where
  stage := same.stage
  waits _ _ _ waits := same.pending ▸ waits
  exchanges := congrArg List.length same.exchanges
  coming := coming

theorem traffic_left {t : Task} (lacks : g.Lacks t left) :
    left.pendingOf = g.pendingOf ∧ left.exchanges = g.exchanges ∧
      left.interconnection = g.interconnection := by
  rw [lacks.whole]
  exact ⟨rfl, rfl, rfl⟩

theorem Spares.of_told {hop : Hop} (names : left.frame.names.Nodup) (lacks : g.Lacks (.forward hop) left)
    (nothing : ∀ kind, Task.brings kind (.forward hop) = 0) (m : Message) (l : ReplyTo) :
    Spares g (l.foldl (fun g r => g.answerProtocol m r.1 r.2) left.countForwarded) := by
  have stirs := Gateway.stirs_answerAll (g := left.countForwarded) m l
  have traffic := left.countForwarded.traffic_answerAll m l
  obtain ⟨pending, exchanges, stage⟩ := traffic_left lacks
  constructor
  case stage =>
    have same := congrArg Traffic.interconnection traffic
    rw [(Traffic.beside_resolveAll left.countForwarded.traffic m (receipts l)).interconnection] at same
    exact same.trans stage
  case waits =>
    intro p s k waits
    have same : Gateway.pendingOf _ p = _ := congrFun (congrArg Traffic.pending traffic) p
    rw [same] at waits
    rw [← pending]
    exact Traffic.waits_resolveAll waits
  case exchanges =>
    have same := congrArg (fun t => t.exchanges.length) traffic
    exact same.trans ((Traffic.length_resolveAll _ m _).trans (congrArg List.length exchanges))
  case coming =>
    intro kind
    have gone : left.coming kind + _ = g.coming kind := lacks.burden _ _
    rw [nothing, Nat.add_zero] at gone
    exact gone.ge.trans (stirs.more names _ _)

/-- What one task of an errand does: something beside the stage and the callers, or it tells the
receivers of an answer, or the stage hears a message. -/
inductive Passing (e : Errand) (f : Frame) (g g' : Gateway) : Prop where
  | beside (same : Gateway.Beside g g')
      (carrying : g.carrying e.protocol e.sequence ≤ g'.carrying e.protocol e.sequence)
      (coming : ∀ kind, g.coming kind ≤ g'.coming kind)
  | tells (m : Message) (p : ProtocolName) (l : ReplyTo) (hops : Nat) (left : Gateway)
      (suits : e.Suits m)
      (lacks : g.Lacks (.forward ⟨.output, .manager, f.keys.answering m p l hops⟩) left)
      (told : l.foldl (fun g r => g.answerProtocol m r.1 r.2) left.countForwarded = g')
  | hears (m : Message) (ic : Interconnection) (result : StageResult) (said : e.tells m)
      (crossing : g.interconnection.onAnswer g.instant (f.keys.heard m e.sender) = (ic, result))
      (passed : Passed g ⟨.manager, .interconnection, f.keys.wrap m e.sender⟩ ic result g')

namespace Passing

theorem of_beside {t : Task} (lacks : g.Lacks t left) (same : Gateway.Beside left g')
    (carrying : left.carrying e.protocol e.sequence + Gateway.carried e.protocol e.sequence t ≤
      g'.carrying e.protocol e.sequence)
    (coming : ∀ kind, left.coming kind + t.brings kind ≤ g'.coming kind) : e.Passing f g g' := by
  have whole : Gateway.Beside g left := by
    rw [lacks.whole]
    exact ⟨rfl, rfl, rfl, rfl⟩
  exact .beside (whole.trans same) ((lacks.burden _ _).symm.le.trans carrying)
    fun kind => (lacks.burden _ _).symm.le.trans (coming kind)

end Passing

namespace Goes

theorem taken {t : Task} (goes : e.Goes f g) (lacks : g.Lacks t left) :
    left.frame = f ∧ left.keys = f.keys ∧ left.frame.names = f.names ∧
      Gateway.Carries (e.Moves f) e.Fills left := by
  have frame : left.frame = f := by
    rw [← goes.frame, lacks.whole]
    rfl
  exact ⟨frame, congrArg Frame.keys frame, congrArg Frame.names frame,
    goes.carries.fewer lacks.fewer (by rw [lacks.whole])⟩

theorem consume (goes : e.Goes f g) (ready : f.Ready) {p : ProtocolName}
    (lacks : g.Lacks (.consume p) left) (orderly : (left.consume p).traffic.Orderly) :
    e.Goes f (left.consume p) ∧ e.Passing f g (left.consume p) := by
  obtain ⟨frame, keys, named, carries⟩ := goes.taken lacks
  have gentle (entry : PluginEntry) (found : left.entry? p = some entry)
      (x : Parcel Outbound Inbound) (member : x ∈ entry.sink.queue) : x.Gentle :=
    (carries.queues p entry found x member).gentle
  have running : left.phase = .running := (congrArg Frame.phase frame).trans ready.running
  have names : left.frame.names.Nodup := named ▸ ready.names
  have same := Gateway.beside_consume gentle
  refine ⟨⟨orderly, same.frame.trans frame, Gateway.awake_consume (lacks.awakeBut goes.awake),
    carries.consume (.wakes p) ?_ ?_ ?_⟩, .of_beside lacks same ?_ fun kind => ?_⟩
  · intro r fills
    cases fills
  · intro m fills
    rw [keys]
    cases fills with
    | speaks m said => exact .arrives m said
  · intro entry r _ fills
    cases fills
  · exact Gateway.burden_consume running names gentle (fun _ => Nat.le_refl _) fun _ => rfl
  · exact Gateway.burden_consume running names gentle (fun _ => Nat.le_refl _) fun _ => rfl

theorem respond (goes : e.Goes f g) (ready : f.Ready) {messages : List Message}
    (said : ∀ m ∈ messages, e.tells m) (present : (f.outlook e.sender).isSome)
    (lacks : g.Lacks (.respond e.sender messages) left)
    (orderly : (left.respond e.sender messages).traffic.Orderly) :
    e.Goes f (left.respond e.sender messages) ∧ e.Passing f g (left.respond e.sender messages) := by
  obtain ⟨frame, _, named, carries⟩ := goes.taken lacks
  have awake : left.Awake := lacks.awake goes.awake fun p same => nomatch same
  obtain ⟨o, found⟩ := Option.isSome_iff_exists.mp present
  have heard : left.outlook e.sender = some o := (congrFun (congrArg Frame.outlook frame) _).trans found
  have listens := ready.listens _ _ found
  have names : left.frame.names.Nodup := named ▸ ready.names
  have traffic := Gateway.traffic_respond left e.sender messages
  have carries : Gateway.Carries (e.Moves f) e.Fills (left.respond e.sender messages) := by
    refine carries.respond (.wakes _) (fun m member => .speaks m (said m member)) ?_
    rintro m rest rfl
    exact .speaks rest (fun m' later => said m' (List.mem_cons_of_mem m later)) present
  -- Each message that is sent is one less to say and one more under way.
  cases messages with
  | nil =>
    exact ⟨⟨orderly, frame, awake, carries⟩,
      .of_beside lacks (.refl left) (Nat.le_refl _) fun _ => Nat.le_refl _⟩
  | cons m rest =>
    have stirs := Gateway.stirs_send (g := left) e.sender (.toA (.answer m))
    have more := Gateway.burden_send_listens names heard listens (.toA (.answer m))
    rw [Gateway.respond_listens heard listens] at orderly carries traffic ⊢
    by_cases last : rest.isEmpty = true
    · rw [if_pos last] at orderly carries traffic ⊢
      rw [List.isEmpty_iff.mp last] at lacks
      refine ⟨⟨orderly, stirs.frame.trans frame, stirs.awake awake, carries⟩,
        .of_beside lacks (.of_traffic stirs.frame traffic) (more _ _) fun kind => ?_⟩
      change left.burden _ _ + [m].countP kind ≤ _
      rw [List.countP_singleton]
      exact more (Task.brings kind) (Parcel.brings kind)
    · rw [if_neg last] at orderly carries traffic ⊢
      have stirs := stirs.trans (Gateway.stirs_enqueueFirst (.respond e.sender rest))
      refine ⟨⟨orderly, stirs.frame.trans frame, stirs.awake awake, carries⟩,
        .of_beside lacks (.of_traffic stirs.frame traffic) (stirs.more names _ _) fun kind => ?_⟩
      have told := more (Task.brings kind) (Parcel.brings kind)
      change left.burden _ _ + (m :: rest).countP kind ≤ Gateway.burden _ _ _
      rw [Gateway.burden_enqueueFirst, List.countP_cons]
      change _ + (if kind m then 1 else 0) ≤ _ at told
      change _ ≤ _ + rest.countP kind
      omega

theorem turn (goes : e.Goes f g) (ready : f.Ready) {m : Message} {p : ProtocolName} {l : ReplyTo}
    {hops : Nat} (suits : e.Suits m)
    (lacks : g.Lacks (.forward ⟨.interconnection, .output, f.keys.answering m p l hops⟩) left)
    (orderly : (left.dispatch ⟨.interconnection, .output, f.keys.answering m p l hops⟩).traffic.Orderly) :
    e.Goes f (left.dispatch ⟨.interconnection, .output, f.keys.answering m p l hops⟩) ∧
      e.Passing f g (left.dispatch ⟨.interconnection, .output, f.keys.answering m p l hops⟩) := by
  obtain ⟨frame, keys, _, carries⟩ := goes.taken lacks
  have running : left.countForwarded.phase = .running := (congrArg Frame.phase frame).trans ready.running
  have lawful : Lawful left.keys ⟨.interconnection, .output, f.keys.answering m p l hops⟩ := by
    rw [lacks.whole]
    exact goes.orderly.lawful _ (Gateway.mem_hops lacks.member)
  have follows : left.dispatch ⟨.interconnection, .output, f.keys.answering m p l hops⟩ =
      left.countForwarded.follow
        (.ok (some ⟨.output, .manager, f.keys.answering m p l (hops + 1)⟩)) := by
    refine Gateway.dispatch_received lawful ?_
    rw [← keys] at lawful ⊢
    cases lawful with
    | answering _ _ _ _ answer receivers _ =>
      exact congrArg (Prod.mk left.countForwarded)
        (OutputStage.receive_answering left.keys m p l (hops + 1) answer receivers)
  have counted : Gateway.Beside left left.countForwarded := ⟨rfl, rfl, rfl, rfl⟩
  have awake : left.countForwarded.Awake := lacks.awake goes.awake fun p same => nomatch same
  have more := Gateway.burden_follow_running running
    (.ok (some ⟨.output, .manager, f.keys.answering m p l (hops + 1)⟩))
  rw [follows] at orderly ⊢
  have same := counted.trans (Gateway.beside_follow (g := left.countForwarded)
    (.ok (some ⟨.output, .manager, f.keys.answering m p l (hops + 1)⟩)))
  refine ⟨⟨orderly, same.frame.trans frame, (Gateway.stirs_follow _).awake awake, ?_⟩,
    .of_beside lacks same (more _ _).ge fun kind => (more _ _).ge⟩
  have carries : Gateway.Carries (e.Moves f) e.Fills left.countForwarded := ⟨carries.tasks, carries.queues⟩
  refine carries.follow fun hop sent => ?_
  cases sent
  exact .leaves m p l (hops + 1) suits

theorem leave (goes : e.Goes f g) {m : Message} {p : ProtocolName} {l : ReplyTo} {hops : Nat}
    (suits : e.Suits m)
    (lacks : g.Lacks (.forward ⟨.output, .manager, f.keys.answering m p l hops⟩) left)
    (orderly : (left.dispatch ⟨.output, .manager, f.keys.answering m p l hops⟩).traffic.Orderly) :
    e.Goes f (left.dispatch ⟨.output, .manager, f.keys.answering m p l hops⟩) ∧
      e.Passing f g (left.dispatch ⟨.output, .manager, f.keys.answering m p l hops⟩) := by
  obtain ⟨frame, keys, _, carries⟩ := goes.taken lacks
  have lawful : Lawful left.keys ⟨.output, .manager, f.keys.answering m p l hops⟩ := by
    rw [lacks.whole]
    exact goes.orderly.lawful _ (Gateway.mem_hops lacks.member)
  have tells : left.dispatch ⟨.output, .manager, f.keys.answering m p l hops⟩ =
      l.foldl (fun g r => g.answerProtocol m r.1 r.2) left.countForwarded := by
    rw [← keys] at lawful ⊢
    exact Gateway.dispatch_received lawful (left.countForwarded.fanOut_answering m p l (hops + 1))
  have stirs := Gateway.stirs_answerAll (g := left.countForwarded) m l
  have awake : left.countForwarded.Awake := lacks.awake goes.awake fun p same => nomatch same
  have carries : Gateway.Carries (e.Moves f) e.Fills left.countForwarded := ⟨carries.tasks, carries.queues⟩
  rw [tells] at orderly ⊢
  exact ⟨⟨orderly, stirs.frame.trans frame, stirs.awake awake,
    carries.acts .wakes (Gateway.acts_answerAll (fun q r _ => .pushes q r) l)⟩,
    .tells m p l hops left suits lacks rfl⟩

theorem arrive (goes : e.Goes f g) (ready : f.Ready) {m : Message} (said : e.tells m)
    (suits : e.Suits m)
    (lacks : g.Lacks (.forward ⟨.manager, .interconnection, f.keys.wrap m e.sender⟩) left)
    (orderly : (left.dispatch ⟨.manager, .interconnection, f.keys.wrap m e.sender⟩).traffic.Orderly) :
    e.Goes f (left.dispatch ⟨.manager, .interconnection, f.keys.wrap m e.sender⟩) ∧
      e.Passing f g (left.dispatch ⟨.manager, .interconnection, f.keys.wrap m e.sender⟩) := by
  obtain ⟨frame, _, _, carries⟩ := goes.taken lacks
  have keys : g.keys = f.keys := congrArg Frame.keys goes.frame
  have running : g.phase = .running := (congrArg Frame.phase goes.frame).trans ready.running
  obtain ⟨ic, result, crossing, hears⟩ := Interconnection.onAnswer_hears
    (goes.orderly.token.trans (congrArg Keyring.interconnection keys)) goes.orderly.keyed g.instant m
    e.sender
  have follows : left.dispatch ⟨.manager, .interconnection, f.keys.wrap m e.sender⟩ =
      Gateway.follow { left.countForwarded with interconnection := ic } result := by
    have lawful : Lawful left.keys ⟨.manager, .interconnection, f.keys.wrap m e.sender⟩ := by
      rw [lacks.whole]
      exact goes.orderly.lawful _ (Gateway.mem_hops lacks.member)
    have crossing : left.countForwarded.interconnection.receive left.countForwarded.instant .manager
        (f.keys.heard m e.sender) = (ic, result) := by
      rw [lacks.whole]
      exact crossing
    exact Gateway.dispatch_received lawful
      (Gateway.receiveAt_interconnection left.countForwarded .manager crossing _)
  rw [follows] at orderly ⊢
  have stirs : Gateway.Stirs { left.countForwarded with interconnection := ic }
      (Gateway.follow { left.countForwarded with interconnection := ic } result) :=
    Gateway.stirs_follow result
  have awake : left.Awake := lacks.awake goes.awake fun p same => nomatch same
  have carries : Gateway.Carries (e.Moves f) e.Fills { left.countForwarded with interconnection := ic } :=
    ⟨carries.tasks, carries.queues⟩
  refine ⟨⟨orderly, stirs.frame.trans frame, stirs.awake awake, carries.follow fun hop sent => ?_⟩,
    .hears m ic result said crossing (passed_follow running lacks ic result)⟩
  cases hears with
  | unreadable | unmatched | brokenOff => cases sent
  | matched key subscriptions cache l about drained stored receivers =>
    cases sent
    exact .turns m e.sender l 1 suits

/-- Whatever happens next belongs to the errand, and so does all that comes of it. -/
theorem run (goes : e.Goes f g) (ready : f.Ready) (suits : ∀ m, e.tells m → e.Suits m) {i : Nat}
    (bound : i < g.tasks.length) : e.Goes f (g.runTask i) ∧ e.Passing f g (g.runTask i) := by
  obtain ⟨left, run, lacks⟩ := Gateway.exists_lacks (List.getElem?_eq_getElem bound)
  have orderly : (g.runTask i).traffic.Orderly :=
    goes.orderly.step (g.step_move goes.orderly (.event (.run i)))
  have moves := goes.carries.tasks _ lacks.member
  rw [run] at orderly ⊢
  generalize g.tasks[i] = t at orderly lacks moves ⊢
  cases moves with
  | wakes p => exact goes.consume ready lacks orderly
  | speaks messages said present => exact goes.respond ready said present lacks orderly
  | arrives m said => exact goes.arrive ready said (suits m said) lacks orderly
  | turns m p l hops suits => exact goes.turn ready suits lacks orderly
  | leaves m p l hops suits => exact goes.leave suits lacks orderly

theorem settles {P Q : Gateway → Prop} (goes : e.Goes f g) (ready : f.Ready)
    (suits : ∀ m, e.tells m → e.Suits m) (holds : Q g)
    (kept : ∀ h h', e.Goes f h → e.Passing f h h' → Q h → Q h')
    (rest : ∀ h, e.Goes f h → Q h → h.tasks = [] → P h) : g.Settles P := by
  have step (h : Gateway) (i : Nat) (now : e.Goes f h ∧ Q h) (bound : i < h.tasks.length) :
      e.Goes f (h.runTask i) ∧ Q (h.runTask i) := by
    obtain ⟨goes, passing⟩ := now.1.run ready suits bound
    exact ⟨goes, kept h _ now.1 passing now.2⟩
  have names : g.course.names.Nodup := by
    have names := ready.names
    rw [← goes.frame] at names
    exact names
  exact Gateway.settles_of_kept (Q := fun h => e.Goes f h ∧ Q h) step
    (fun h now still => rest h now.1 now.2 still) goes.orderly names ⟨goes, holds⟩

theorem burden_at_rest (goes : e.Goes f g) (ready : f.Ready) (still : g.tasks = []) (a : Task → Nat)
    (b : Parcel Outbound Inbound → Nat) : g.burden a b = 0 := by
  have frame := goes.frame
  refine Gateway.burden_at_rest goes.awake (fun p o found => ready.listens p o ?_) ?_ still a b
  · rw [← frame]
    exact found
  · rw [frame]
    exact ready.names

end Goes

end Errand

end ProtocolGateway
