import Mathlib
import ProtocolGateway.Gateway.Run

/-!
What the ends of the pipeline do to a gateway. All of it comes down to two acts: a value is put into
a sink, and a request that waits is resolved. What both of them preserve, every end preserves.
-/

namespace ProtocolGateway

namespace Sink

variable {α β : Type} {s s' : Sink α β} {x : Parcel α β}

theorem eq_of_offer (queued : s.offer x = .queued s') : s' = s.push x := by
  unfold offer at queued
  split at queued
  · cases queued
  · split at queued
    · cases queued
      rfl
    · cases queued

theorem eq_of_next? (next : s.next? = some (x, s')) :
    s.closed = false ∧ s.queue = x :: s'.queue ∧ s' = { s with queue := s'.queue } := by
  unfold next? at next
  split at next
  · cases next
  · rename_i shut
    split at next
    · cases next
    · rename_i queue
      cases next
      exact ⟨Bool.eq_false_of_not_eq_true shut, queue, rfl⟩

theorem offer_queue (queued : s.offer x = .queued s') : s'.queue = s.queue ++ [x] := by
  rw [eq_of_offer queued]
  rfl

theorem next_queue (next : s.next? = some (x, s')) : s.queue = x :: s'.queue :=
  (eq_of_next? next).2.1

theorem offer_flags (queued : s.offer x = .queued s') :
    s'.closed = s.closed ∧ s'.isReady = s.isReady := by
  rw [eq_of_offer queued]
  exact ⟨rfl, rfl⟩

theorem next_flags (next : s.next? = some (x, s')) :
    s'.closed = s.closed ∧ s'.isReady = s.isReady := by
  rw [(eq_of_next? next).2.2]
  exact ⟨rfl, rfl⟩

end Sink

namespace Gateway

open Relation (ReflTransGen)

/-! Sinks -/

/-- A sink refuses a value without a trace, or queues it and has its consumer under way. -/
theorem send_cases (g : Gateway) (p : ProtocolName) (x : Parcel Outbound Inbound) :
    (∃ cause, g.send p x = (g, .error cause)) ∨
      ∃ e sink, g.entry? p = some e ∧ e.sink.offer x = .queued sink ∧
        let put := g.updateEntry p fun e => { e with sink := sink }
        .consume p ∈ g.tasks ∧ g.send p x = (put, .ok ()) ∨
          g.send p x = (put.enqueue (.consume p), .ok ()) := by
  unfold send
  split
  · exact Or.inl ⟨_, rfl⟩
  · rename_i e found
    split
    · rename_i sink offered
      refine Or.inr ⟨e, sink, found, offered, ?_⟩
      dsimp only
      split
      · rename_i awake
        exact Or.inl ⟨List.contains_iff_mem.mp awake, rfl⟩
      · exact Or.inr rfl
    · exact Or.inl ⟨_, rfl⟩
    · exact Or.inl ⟨_, rfl⟩

/-- A consumer finds nothing to do, or hands the next value over and goes on while values are left. -/
theorem consume_cases (g : Gateway) (p : ProtocolName) :
    g.consume p = g ∨
      ∃ e x sink, g.entry? p = some e ∧ e.sink.next? = some (x, sink) ∧
        let given := (g.updateEntry p fun e => { e with sink := sink }).handOver p x
        g.consume p = given ∨ g.consume p = given.enqueueFirst (.consume p) := by
  unfold consume
  split
  · exact Or.inl rfl
  · rename_i x sink next
    obtain ⟨e, found, next⟩ := Option.bind_eq_some_iff.mp next
    refine Or.inr ⟨e, x, sink, found, next, ?_⟩
    dsimp only
    split
    · exact Or.inl rfl
    · exact Or.inr rfl

theorem reply_eq (g : Gateway) (p : ProtocolName) (m : Message) :
    (g.reply p m).1 = (g.send p (.toA (.answer m))).1 := by
  unfold reply
  split <;> rename_i same <;> rw [same]

theorem respond_cases (g : Gateway) (p : ProtocolName) (messages : List Message) :
    g.respond p messages = g ∨
      ∃ m rest, messages = m :: rest ∧
        let sent := (g.send p (.toA (.answer m))).1
        g.respond p messages = sent ∨ g.respond p messages = sent.enqueueFirst (.respond p rest) := by
  cases messages with
  | nil => exact Or.inl rfl
  | cons m rest =>
    refine Or.inr ⟨m, rest, rfl, ?_⟩
    rw [← reply_eq, respond]
    split <;> rename_i same <;> rw [same]
    · exact Or.inl rfl
    · split
      · exact Or.inl rfl
      · exact Or.inr rfl

inductive HandsOver (g : Gateway) (p : ProtocolName) : Parcel Outbound Inbound → Gateway → Prop where
  /-- Nobody is there any more to take what plugins send. -/
  | lost (inbound : Inbound) (gone : g.phase = .gone) : HandsOver g p (.toA inbound) g
  | asks (r : Request) (there : g.phase ≠ .gone) :
      HandsOver g p (.toA (.request r)) (g.forward ⟨.manager, .input, g.keys.wrap (.request r) p⟩)
  | answers (m : Message) (there : g.phase ≠ .gone) :
      HandsOver g p (.toA (.answer m)) (g.forward ⟨.manager, .interconnection, g.keys.wrap m p⟩)
  | unheard (outbound : Outbound) (absent : g.entry? p = none) : HandsOver g p (.toB outbound) g
  | handled (e : PluginEntry) (r : Request) (found : g.entry? p = some e)
      (silent : (e.plugin.handleRequest r).2 = []) :
      HandsOver g p (.toB (.request r)) (g.setPlugin p (e.plugin.handleRequest r).1)
  | responds (e : PluginEntry) (r : Request) (found : g.entry? p = some e) :
      HandsOver g p (.toB (.request r)) ((g.setPlugin p (e.plugin.handleRequest r).1).enqueue
        (.respond p (e.plugin.handleRequest r).2))
  | pushed (e : PluginEntry) (r : Reply) (found : g.entry? p = some e) :
      HandsOver g p (.toB (.push r)) (g.setPlugin p (e.plugin.handleReply r))

theorem handOver_cases (g : Gateway) (p : ProtocolName) (x : Parcel Outbound Inbound) :
    HandsOver g p x (g.handOver p x) := by
  match x with
  | .toA inbound =>
    unfold handOver
    dsimp only
    split
    · rename_i gone
      exact .lost inbound gone
    · rename_i there
      cases inbound with
      | request r => exact .asks r there
      | answer m => exact .answers m there
  | .toB (.request r) =>
    unfold handOver
    dsimp only
    split
    · rename_i absent
      exact .unheard _ absent
    · rename_i e found
      split
      · rename_i silent
        exact .handled e r found (List.isEmpty_iff.mp silent)
      · exact .responds e r found
  | .toB (.push r) =>
    unfold handOver
    dsimp only
    split
    · rename_i absent
      exact .unheard _ absent
    · rename_i e found
      exact .pushed e r found

/-! Acts -/

/-- One act of an end: a value of some kind is put into a sink, or a request is resolved. -/
inductive Act (Q : ProtocolName → Parcel Outbound Inbound → Prop) (g : Gateway) : Gateway → Prop where
  | put {p : ProtocolName} {x : Parcel Outbound Inbound} (good : Q p x) : Act Q g (g.send p x).1
  | resolve (p : ProtocolName) (s : Sequence) (m : Message) : Act Q g (g.resolve p s m).1

variable {Q : ProtocolName → Parcel Outbound Inbound → Prop} {g : Gateway} {m : Message}

theorem acts_resolveAll (p : ProtocolName) (m : Message) (ss : List Sequence) :
    ReflTransGen (Act Q) g (g.resolveAll p m ss).1 := by
  induction ss generalizing g with
  | nil => exact .refl
  | cons s rest ih => exact .head (.resolve p s m) ih

theorem acts_push {p : ProtocolName} (good : ∀ r, m = .reply r → Q p (.toB (.push r))) :
    ReflTransGen (Act Q) g (g.push p m) := by
  unfold push
  split
  · split
    · exact .single (.put (good _ rfl))
    · exact .refl
  · exact .refl

theorem acts_pushes {p : ProtocolName} (good : ∀ r, m = .reply r → Q p (.toB (.push r)))
    (subscribers : List Subscriber) :
    ReflTransGen (Act Q) g (subscribers.foldl (fun g _ => g.push p m) g) := by
  induction subscribers generalizing g with
  | nil => exact .refl
  | cons _ rest ih => exact (acts_push good).trans ih

theorem acts_answerProtocol {p : ProtocolName} (good : ∀ r, m = .reply r → Q p (.toB (.push r)))
    (subscribers : List Subscriber) :
    ReflTransGen (Act Q) g (g.answerProtocol m p subscribers) := by
  unfold answerProtocol
  split
  · exact .refl
  · have resolved : ReflTransGen (Act Q) g
        (g.resolveAll p m (subscribers.filterMap Subscriber.sequence?)).1 := acts_resolveAll p m _
    dsimp only
    split
    · exact resolved
    · exact resolved.trans (acts_pushes good _)

theorem acts_answerAll (good : ∀ p r, m = .reply r → Q p (.toB (.push r))) (l : ReplyTo) :
    ReflTransGen (Act Q) g (l.foldl (fun g x => g.answerProtocol m x.1 x.2) g) := by
  induction l generalizing g with
  | nil => exact .refl
  | cons x rest ih => exact (acts_answerProtocol (good x.1) x.2).trans ih

theorem hand_cases (g : Gateway) (r : Request) (target : ProtocolName) :
    (∃ detail, g.hand r target = (g, .error detail)) ∨
      g.hand r target = ((g.send target (.toB (.request r))).1, .ok ()) := by
  unfold hand
  split
  · exact Or.inl ⟨_, rfl⟩
  · split
    · rcases g.send_cases target (.toB (.request r)) with ⟨cause, failed⟩ | ⟨_, _, _, _, sent⟩
      · rw [failed]
        exact Or.inl ⟨_, rfl⟩
      · rcases sent with ⟨_, sent⟩ | sent <;> rw [sent] <;> exact Or.inr rfl
    · exact Or.inl ⟨_, rfl⟩

theorem acts_hand {r : Request} {target : ProtocolName} (good : Q target (.toB (.request r))) :
    ReflTransGen (Act Q) g (g.hand r target).1 := by
  rcases g.hand_cases r target with ⟨detail, refused⟩ | handed
  · rw [refused]
  · rw [handed]
    exact .single (.put good)

theorem acts_deliver {e : Envelope}
    (handed : ∀ r q, readDelivery g.keys.main e = .ok (r, q) → Q q (.toB (.request r))) :
    ReflTransGen (Act Q) g (g.deliver e).1 := by
  unfold deliver
  split
  · exact .refl
  · rename_i r target read
    have given : ReflTransGen (Act Q) g (g.hand r target).1 := acts_hand (handed r target read)
    split <;> rename_i same <;> rw [same] at given <;> exact given

theorem acts_fanOut {e : Envelope} (pushed : ∀ p r, e.content = .reply r → Q p (.toB (.push r))) :
    ReflTransGen (Act Q) g (g.fanOut e).1 := by
  unfold fanOut
  split
  · exact .refl
  · exact .refl
  · rename_i replyTo m _ read
    have content : e.content = m := by
      unfold Envelope.message at read
      cases check : e.check g.keys.main .message with
      | error cause =>
        rw [check] at read
        cases read
      | ok _ =>
        rw [check] at read
        cases read
        rfl
    exact acts_answerAll (fun p r same => pushed p r (content.trans same)) _

/-- A hop changes the state of the interconnection stage, or it is one of the manager's ends. -/
theorem receiveAt_acts (hop : Hop) (e : Envelope)
    (handed : ∀ r q, hop.source = .interconnection → readDelivery g.keys.main e = .ok (r, q) →
      Q q (.toB (.request r)))
    (pushed : ∀ p r, hop.source = .output → e.content = .reply r → Q p (.toB (.push r))) :
    (∃ ic, (g.receiveAt hop e).1 = { g with interconnection := ic }) ∨
      ReflTransGen (Act Q) g (g.receiveAt hop e).1 := by
  unfold receiveAt
  cases hop.target with
  | input | output => exact Or.inr .refl
  | interconnection => exact Or.inl ⟨_, rfl⟩
  | manager =>
    right
    dsimp only
    unfold receive
    split
    · rename_i source
      exact acts_deliver fun r q => handed r q source
    · rename_i source
      exact acts_fanOut fun p r => pushed p r source
    · exact .refl
    · exact .refl

theorem receiveAt_cases (g : Gateway) (hop : Hop) (e : Envelope) :
    (∃ ic, (g.receiveAt hop e).1 = { g with interconnection := ic }) ∨
      ReflTransGen (Act fun _ _ => True) g (g.receiveAt hop e).1 :=
  receiveAt_acts hop e (fun _ _ _ _ => trivial) fun _ _ _ _ => trivial

end Gateway

end ProtocolGateway
