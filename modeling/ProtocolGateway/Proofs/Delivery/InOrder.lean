import Mathlib
import ProtocolGateway.Delivery.TimedSink

/-!
The order of a sink. Sends, listeners, the consumer and a close may come in any order, with a send in
several pieces. What is handed over is always a prefix of what was queued, and what was queued are
the sends that returned without an error. `Turn` says once what an event can do; all else is read off
that list.
-/

namespace ProtocolGateway

namespace Sink

variable {α β : Type} {s s' : Sink α β}

theorem next?_eq_some {p : Parcel α β} :
    s.next? = some (p, s') ↔
      s.closed = false ∧ ∃ rest, s.queue = p :: rest ∧ s' = { s with queue := rest } := by
  unfold next?
  by_cases closed : s.closed = true
  · simp [closed]
  · rw [if_neg closed]
    cases s.queue with
    | nil => simp
    | cons q rest => simp [closed, eq_comm, and_assoc]

theorem listen_ok {e : SinkEnd} (set : s.listen e = .ok s') :
    s'.queue = s.queue ∧ s'.closed = s.closed ∧ (s.isReady = true → s'.isReady = true) := by
  unfold listen at set
  split at set
  · cases set
  · cases e <;> cases set <;> refine ⟨rfl, rfl, fun ready => ?_⟩ <;> simp_all [isReady]

end Sink

namespace Parcel

variable {α β : Type}

@[simp] theorem ticket_under (k : SendTicket) (p : Parcel α β) : (p.under k).ticket = k := by
  cases p <;> rfl

@[simp] theorem bare_under (k : SendTicket) (p : Parcel α β) : (p.under k).bare = p := by
  cases p <;> rfl

def forA? : Parcel α β → Option β
  | .toA v => some v
  | .toB _ => none

def forB? : Parcel α β → Option α
  | .toB v => some v
  | .toA _ => none

end Parcel

namespace TimedSink

variable {α β : Type} {t : TimedSink α β}

def parcel? (t : TimedSink α β) (k : SendTicket) : Option (Parcel α β) := (t.sends[k]?).map Send.parcel

theorem progress?_eq {k : SendTicket} {s : Send α β} (found : t.sends[k]? = some s) :
    t.progress? k = some s.progress := by
  unfold progress?
  rw [found]
  rfl

theorem parcel?_eq {k : SendTicket} {s : Send α β} (found : t.sends[k]? = some s) :
    t.parcel? k = some s.parcel := by
  unfold parcel?
  rw [found]
  rfl

theorem result?_eq_some {k : SendTicket} {r : Except SinkError Unit} :
    t.result? k = some r ↔ t.progress? k = some (.returned r) := by
  unfold result?
  split
  · rename_i r' found
    rw [found]
    simp
  · rename_i other
    exact ⟨fun absent => (nomatch absent), fun found => absurd found (other _)⟩

/-! Pieces of a send -/

@[simp] theorem parcel?_advance (t : TimedSink α β) (k j : SendTicket) (x : SendProgress) :
    (t.advance k x).parcel? j = t.parcel? j := by
  unfold advance parcel?
  dsimp only
  rw [List.getElem?_modify]
  cases t.sends[j]? with
  | none => rfl
  | some s => by_cases same : k = j <;> simp [same]

theorem progress?_advance (t : TimedSink α β) (k j : SendTicket) (x : SendProgress) :
    (t.advance k x).progress? j = if k = j then (t.progress? j).map fun _ => x else t.progress? j := by
  unfold advance progress?
  dsimp only
  rw [List.getElem?_modify]
  cases t.sends[j]? with
  | none => simp
  | some s => by_cases same : k = j <;> simp [same]

@[simp] theorem length_advance (t : TimedSink α β) (k : SendTicket) (x : SendProgress) :
    (t.advance k x).sends.length = t.sends.length := List.length_modify _ _ _

theorem sends_call {p : Parcel α β} {k : SendTicket} {s : Send α β} (found : t.sends[k]? = some s) :
    (t.call p).sends[k]? = some s := by
  obtain ⟨bound, _⟩ := List.getElem?_eq_some_iff.mp found
  unfold call
  dsimp only
  rw [List.getElem?_append_left bound, found]

theorem progress?_call_old {p : Parcel α β} {k : SendTicket} {x : SendProgress}
    (found : t.progress? k = some x) : (t.call p).progress? k = some x := by
  obtain ⟨s, here, rfl⟩ := Option.map_eq_some_iff.mp found
  exact progress?_eq (sends_call here)

theorem parcel?_call_old {p q : Parcel α β} {k : SendTicket} (found : t.parcel? k = some q) :
    (t.call p).parcel? k = some q := by
  obtain ⟨s, here, rfl⟩ := Option.map_eq_some_iff.mp found
  exact parcel?_eq (sends_call here)

theorem progress?_call {p : Parcel α β} {k : SendTicket} {x : SendProgress}
    (found : (t.call p).progress? k = some x) :
    t.progress? k = some x ∨ k = t.sends.length ∧
      x = if t.sink.closed then .returned (.error .closed) else .waiting (t.now + t.limit.timerMillis) := by
  unfold call progress? at found
  dsimp only at found
  rcases Nat.lt_trichotomy k t.sends.length with early | rfl | late
  · rw [List.getElem?_append_left early] at found
    exact Or.inl found
  · simp only [List.getElem?_concat_length, Option.map_some, Option.some.injEq] at found
    exact Or.inr ⟨rfl, found.symm⟩
  · rw [List.getElem?_eq_none (by simp; omega)] at found
    cases found

/-! Turns -/

/-- What an event can do to a sink. -/
inductive Turn (t : TimedSink α β) : SinkEvent α β → TimedSink α β → Prop where
  | still (event : SinkEvent α β) : Turn t event t
  /-- Somebody listens, the sink closes, or time goes on. -/
  | beside (event : SinkEvent α β) (sink : Sink (SendTicket × α) (SendTicket × β)) (now : Nat)
      (queue : sink.queue = t.sink.queue) (closed : t.sink.closed = true → sink.closed = true)
      (ready : t.sink.isReady = true → sink.isReady = true) :
      Turn t event { t with sink := sink, now := now }
  | called (p : Parcel α β) : Turn t (.call p) (t.call p)
  /-- A send has come further, and its value is not queued. -/
  | went (event : SinkEvent α β) (k : SendTicket) (old x : SendProgress)
      (found : t.progress? k = some old) (going : ∀ r, old ≠ .returned r)
      (unqueued : x ≠ .returned (.ok ())) (ready : x = .cleared → t.sink.isReady = true) :
      Turn t event (t.advance k x)
  | queued (k : SendTicket) (p : Parcel α β) (found : t.sends[k]? = some ⟨p, .cleared⟩)
      (runs : t.stopped = false) :
      Turn t (.push k)
        ({ t with sink := t.sink.push (p.under k), accepted := t.accepted ++ [k] }.advance k
          (.returned (.ok ())))
  | handed (ended : ListenerEnd) (p : Parcel (SendTicket × α) (SendTicket × β))
      (rest : List (Parcel (SendTicket × α) (SendTicket × β))) (isOpen : t.sink.closed = false)
      (queue : t.sink.queue = p :: rest) :
      Turn t (.consume ended)
        { t with
          sink := { t.sink with queue := rest }
          handedOver := t.handedOver ++ [⟨p.ticket, p.bare, ended⟩] }
  | stopped (ended : ListenerEnd) (closed : t.sink.closed = true) :
      Turn t (.consume ended) { t with sink := { t.sink with queue := [] }, stopped := true }

theorem turn_listen (t : TimedSink α β) (e : SinkEnd) : Turn t (.listen e) (t.step (.listen e)) := by
  rw [step, listen]
  cases set : t.sink.listen e with
  | error _ => exact .still _
  | ok sink =>
    obtain ⟨queue, closed, ready⟩ := Sink.listen_ok set
    exact .beside _ sink t.now queue (fun was => closed.trans was) ready

theorem turn_look (t : TimedSink α β) (k : SendTicket) : Turn t (.look k) (t.look k) := by
  unfold look
  split
  · rename_i deadline found
    have going : ∀ r, SendProgress.waiting deadline ≠ .returned r := by simp
    split
    · rename_i ready
      refine .went _ k _ _ found going ?_ fun _ => ready
      split <;> simp
    · split
      · exact .went _ k _ _ found going (by simp) (by simp)
      · exact .still _
  · exact .still _

theorem turn_push (t : TimedSink α β) (k : SendTicket) : Turn t (.push k) (t.push k) := by
  unfold push
  split
  · rename_i p found
    split
    · exact .went _ k _ _ (progress?_eq found) (by simp) (by simp) (by simp)
    · rename_i runs
      exact .queued k p found (Bool.eq_false_iff.mpr runs)
  · exact .still _

theorem turn_consume (t : TimedSink α β) (ended : ListenerEnd) :
    Turn t (.consume ended) (t.consume ended) := by
  unfold consume
  split
  · rename_i p sink next
    obtain ⟨isOpen, rest, queue, rfl⟩ := Sink.next?_eq_some.mp next
    exact .handed ended p rest isOpen queue
  · split
    · rename_i closed
      exact .stopped ended closed
    · exact .still _

theorem step_turn (t : TimedSink α β) (event : SinkEvent α β) : Turn t event (t.step event) := by
  cases event with
  | listen e => exact t.turn_listen e
  | call p => exact .called p
  | look k => exact t.turn_look k
  | push k => exact t.turn_push k
  | consume ended => exact t.turn_consume ended
  | close => exact .beside _ t.sink.close t.now rfl (fun _ => rfl) id
  | tick ms => exact .beside _ t.sink (t.now + ms) rfl id id

theorem returned_step {k : SendTicket} {r : Except SinkError Unit}
    (ended : t.progress? k = some (.returned r)) (event : SinkEvent α β) :
    (t.step event).progress? k = some (.returned r) := by
  -- A send that goes on has not returned, so it is another one.
  have other {u : TimedSink α β} (same : u.sends = t.sends) {j : SendTicket} {old x : SendProgress}
      (found : t.progress? j = some old) (going : ∀ r, old ≠ .returned r) :
      (u.advance j x).progress? k = some (.returned r) := by
    have progress (i : SendTicket) : u.progress? i = t.progress? i := by
      unfold progress?
      rw [same]
    rw [progress?_advance, progress, if_neg, ended]
    rintro rfl
    exact going r (Option.some.inj (found.symm.trans ended))
  have turn := t.step_turn event
  generalize t.step event = t' at turn ⊢
  cases turn with
  | still | beside | handed | stopped => exact ended
  | called p => exact progress?_call_old ended
  | went _ j old x found going _ _ => exact other rfl found going
  | queued j p found runs => exact other rfl (progress?_eq found) (by simp)

/-! What holds at all times -/

structure Orderly (t : TimedSink α β) : Prop where
  /-- The consumer stops only at a closed sink. -/
  stopped : t.stopped = true → t.sink.closed = true
  /-- While the consumer goes on, nothing that was queued is lost. -/
  whole : t.stopped = false →
    t.accepted = t.handedOver.map HandedOver.ticket ++ t.sink.queue.map Parcel.ticket
  part : t.handedOver.map HandedOver.ticket <+: t.accepted
  once : t.accepted.Nodup
  returned : ∀ k, k ∈ t.accepted ↔ t.progress? k = some (.returned (.ok ()))
  handed : ∀ h ∈ t.handedOver, t.parcel? h.ticket = some h.parcel
  queued : ∀ p ∈ t.sink.queue, t.parcel? p.ticket = some p.bare
  /-- A send is cleared only while both ends listen, and they do not cease to. -/
  cleared : ∀ k, t.progress? k = some .cleared → t.sink.isReady = true

namespace Orderly

theorem new (limit : Span) : Orderly (new limit : TimedSink α β) where
  stopped was := nomatch was
  whole _ := rfl
  part := List.prefix_refl []
  once := List.nodup_nil
  returned k := ⟨fun member => (nomatch member), fun found => by cases found⟩
  handed _ member := nomatch member
  queued _ member := nomatch member
  cleared k found := by cases found

theorem runs (orderly : t.Orderly) (isOpen : t.sink.closed = false) : t.stopped = false := by
  by_contra stopped
  have closed := orderly.stopped (Bool.eq_true_of_not_eq_false stopped)
  rw [isOpen] at closed
  cases closed

theorem call (orderly : t.Orderly) (p : Parcel α β) : (t.call p).Orderly := by
  refine {
    stopped := orderly.stopped, whole := orderly.whole, part := orderly.part, once := orderly.once
    returned := fun k => ?returned
    handed := fun h member => parcel?_call_old (orderly.handed h member)
    queued := fun q member => parcel?_call_old (orderly.queued q member)
    cleared := fun k cleared => ?cleared }
  case returned =>
    refine (orderly.returned k).trans ⟨progress?_call_old, fun found => ?_⟩
    rcases progress?_call found with old | ⟨_, new⟩
    · exact old
    · split at new <;> cases new
  case cleared =>
    rcases progress?_call cleared with old | ⟨_, new⟩
    · exact orderly.cleared k old
    · split at new <;> cases new

theorem advance (orderly : t.Orderly) {k : SendTicket} {old x : SendProgress}
    (found : t.progress? k = some old) (going : ∀ r, old ≠ .returned r)
    (unqueued : x ≠ .returned (.ok ())) (ready : x = .cleared → t.sink.isReady = true) :
    (t.advance k x).Orderly := by
  refine {
    stopped := orderly.stopped, whole := orderly.whole, part := orderly.part, once := orderly.once
    returned := fun j => ?returned
    handed := fun h member => (parcel?_advance t k _ x).trans (orderly.handed h member)
    queued := fun p member => (parcel?_advance t k _ x).trans (orderly.queued p member)
    cleared := fun j cleared => ?cleared }
  case returned =>
    rw [progress?_advance]
    change j ∈ t.accepted ↔ _
    rw [orderly.returned j]
    by_cases same : k = j
    · subst same
      rw [if_pos rfl, found]
      exact ⟨fun eq => absurd (Option.some.inj eq) (going _),
        fun eq => absurd (Option.some.inj eq) unqueued⟩
    · rw [if_neg same]
  case cleared =>
    rw [progress?_advance] at cleared
    split at cleared
    · rename_i same
      subst same
      rw [found] at cleared
      exact ready (Option.some.inj cleared)
    · exact orderly.cleared j cleared

theorem accept (orderly : t.Orderly) {k : SendTicket} {p : Parcel α β}
    (found : t.sends[k]? = some ⟨p, .cleared⟩) (runs : t.stopped = false) :
    Orderly ({ t with sink := t.sink.push (p.under k), accepted := t.accepted ++ [k] }.advance k
      (.returned (.ok ()))) := by
  let u : TimedSink α β := { t with sink := t.sink.push (p.under k), accepted := t.accepted ++ [k] }
  have progress : t.progress? k = some .cleared := progress?_eq found
  have new : k ∉ t.accepted := by
    rw [orderly.returned k, progress]
    simp
  -- What is accepted goes to the end of the queue, so the order of acceptance is that of the queue.
  have whole : u.accepted = u.handedOver.map HandedOver.ticket ++ u.sink.queue.map Parcel.ticket := by
    change t.accepted ++ [k] = t.handedOver.map _ ++ (t.sink.queue ++ [p.under k]).map _
    rw [orderly.whole runs, List.map_append, List.append_assoc, List.map_singleton, p.ticket_under]
  refine {
    stopped := orderly.stopped, whole := fun _ => whole
    part := orderly.part.trans (List.prefix_append _ _)
    once := List.nodup_append.mpr ⟨orderly.once, List.nodup_singleton k, fun a member b last same => ?once⟩
    returned := fun j => ?returned
    handed := fun h member => (parcel?_advance u k _ _).trans (orderly.handed h member)
    queued := fun q member => (parcel?_advance u k _ _).trans ?queued
    cleared := fun j cleared => orderly.cleared k progress }
  case once =>
    rw [List.mem_singleton.mp last] at same
    exact new (same ▸ member)
  case returned =>
    rw [progress?_advance]
    change j ∈ t.accepted ++ [k] ↔ (if k = j then (t.progress? j).map _ else t.progress? j) = _
    rw [List.mem_append, List.mem_singleton, orderly.returned j]
    by_cases same : k = j
    · subst same
      simp [progress]
    · simp [same, Ne.symm same]
  case queued =>
    rcases List.mem_append.mp member with old | last
    · exact orderly.queued q old
    · rw [List.mem_singleton.mp last, p.ticket_under, p.bare_under]
      exact parcel?_eq found

theorem hand (orderly : t.Orderly) (ended : ListenerEnd) {p : Parcel (SendTicket × α) (SendTicket × β)}
    {rest : List (Parcel (SendTicket × α) (SendTicket × β))} (isOpen : t.sink.closed = false)
    (queue : t.sink.queue = p :: rest) :
    Orderly { t with
      sink := { t.sink with queue := rest }
      handedOver := t.handedOver ++ [⟨p.ticket, p.bare, ended⟩] } := by
  let h : HandedOver α β := ⟨p.ticket, p.bare, ended⟩
  have whole : t.accepted = (t.handedOver ++ [h]).map HandedOver.ticket ++ rest.map Parcel.ticket := by
    rw [orderly.whole (orderly.runs isOpen), queue]
    simp [h]
  refine {
    stopped := orderly.stopped, whole := fun _ => whole, part := whole ▸ List.prefix_append _ _
    once := orderly.once, returned := orderly.returned, handed := fun h' member => ?handed
    queued := fun q member => orderly.queued q (queue ▸ List.mem_cons_of_mem p member)
    cleared := orderly.cleared }
  case handed =>
    rcases List.mem_append.mp member with old | last
    · exact orderly.handed h' old
    · rw [List.mem_singleton.mp last]
      exact orderly.queued p (queue ▸ List.mem_cons_self)

theorem step (orderly : t.Orderly) (event : SinkEvent α β) : (t.step event).Orderly := by
  have turn := t.step_turn event
  generalize t.step event = t' at turn ⊢
  cases turn with
  | still => exact orderly
  | beside _ sink now queue closed ready =>
    refine {
      stopped := fun was => closed (orderly.stopped was), whole := fun runs => ?_
      part := orderly.part, once := orderly.once, returned := orderly.returned
      handed := orderly.handed, queued := fun p member => orderly.queued p (queue ▸ member)
      cleared := fun k cleared => ready (orderly.cleared k cleared) }
    change t.accepted = _ ++ sink.queue.map _
    rw [queue]
    exact orderly.whole runs
  | called p => exact orderly.call p
  | went _ k old x found going unqueued ready => exact orderly.advance found going unqueued ready
  | queued k p found runs => exact orderly.accept found runs
  | handed ended p rest isOpen queue => exact orderly.hand ended isOpen queue
  | stopped ended closed =>
    exact {
      stopped := fun _ => closed, whole := fun runs => (nomatch runs), part := orderly.part
      once := orderly.once, returned := orderly.returned, handed := orderly.handed
      queued := fun _ member => (nomatch member), cleared := orderly.cleared }

theorem run (limit : Span) (events : List (SinkEvent α β)) :
    (TimedSink.run (.new limit) events).Orderly := by
  induction events using List.reverseRecOn with
  | nil => exact .new limit
  | append_singleton events event ih =>
    rw [TimedSink.run, List.foldl_append]
    exact ih.step event

end Orderly

/-- A value is queued behind all others, and only while both ends listen. -/
theorem accepted_step (orderly : t.Orderly) (event : SinkEvent α β) :
    (t.step event).accepted = t.accepted ∨
      ∃ k, event = .push k ∧ (t.step event).accepted = t.accepted ++ [k] ∧ t.sink.isReady = true := by
  have turn := t.step_turn event
  generalize t.step event = t' at turn ⊢
  cases turn with
  | queued k p found runs => exact Or.inr ⟨k, rfl, rfl, orderly.cleared k (progress?_eq found)⟩
  | still | beside | called | went | handed | stopped => exact Or.inl rfl

/-! Sends in one go -/

theorem wake_returned {k : SendTicket} {r : Except SinkError Unit}
    (ended : t.progress? k = some (.returned r)) : t.wake k = t := by
  have looked : t.look k = t := by
    unfold look
    rw [ended]
  unfold wake push
  rw [looked]
  split
  · rename_i p found
    cases (progress?_eq found).symm.trans ended
  · rfl

theorem wake_early {k : SendTicket} {deadline : Nat} (waits : t.progress? k = some (.waiting deadline))
    (deaf : t.sink.isReady ≠ true) (early : ¬deadline ≤ t.now) : t.wake k = t := by
  have looked : t.look k = t := by
    unfold look
    rw [waits]
    dsimp only
    rw [if_neg deaf, if_neg early]
  unfold wake push
  rw [looked]
  split
  · rename_i p found
    cases (progress?_eq found).symm.trans waits
  · rfl

theorem wake_ready {k : SendTicket} {p : Parcel α β} {deadline : Nat}
    (waits : t.sends[k]? = some ⟨p, .waiting deadline⟩) (ready : t.sink.isReady = true)
    (isOpen : t.sink.closed = false) (runs : t.stopped = false) :
    (t.wake k).sink = t.sink.push (p.under k) ∧ (t.wake k).result? k = some (.ok ()) := by
  have looked : t.look k = t.advance k .cleared := by
    unfold look
    rw [progress?_eq waits]
    dsimp only
    rw [if_pos ready, isOpen]
    rfl
  have cleared : (t.advance k .cleared).sends[k]? = some ⟨p, .cleared⟩ := by
    unfold advance
    simp [waits]
  have pushed : t.wake k = { t.advance k .cleared with
      sink := t.sink.push (p.under k), accepted := t.accepted ++ [k] }.advance k (.returned (.ok ())) := by
    unfold wake push
    rw [looked, cleared]
    change (if t.stopped then _ else _) = _
    rw [runs]
    rfl
  rw [pushed]
  refine ⟨rfl, result?_eq_some.mpr ?_⟩
  rw [progress?_advance, if_pos rfl]
  change Option.map _ ((t.advance k .cleared).progress? k) = _
  rw [progress?_eq cleared]
  rfl

/-- A send that nothing comes between is an offer: the sink takes the value, refuses it, or lets the
send wait if there is time. -/
theorem submit_offer (orderly : t.Orderly) (p : Parcel α β) :
    match t.sink.offer (p.under t.sends.length) with
    | .queued sink =>
      (t.submit p).2.sink = sink ∧ (t.submit p).2.result? t.sends.length = some (.ok ())
    | .refused e => (t.submit p).2 = t.call p ∧ (t.call p).result? t.sends.length = some (.error e)
    | .waits => 0 < t.limit.timerMillis → (t.submit p).2 = t.call p ∧
        (t.call p).progress? t.sends.length = some (.waiting (t.now + t.limit.timerMillis)) := by
  have called : (t.call p).sends[t.sends.length]? = some ⟨p, if t.sink.closed then
      .returned (.error .closed) else .waiting (t.now + t.limit.timerMillis)⟩ := by
    unfold call
    simp
  unfold Sink.offer submit
  cases closed : t.sink.closed with
  | true =>
    rw [closed] at called
    exact ⟨wake_returned (progress?_eq called), result?_eq_some.mpr (progress?_eq called)⟩
  | false =>
    rw [closed] at called
    cases ready : t.sink.isReady with
    | true => exact wake_ready (t := t.call p) called ready closed (orderly.runs closed)
    | false =>
      intro time
      have early : ¬t.now + t.limit.timerMillis ≤ t.now := by omega
      exact ⟨wake_early (t := t.call p) (progress?_eq called) (Bool.eq_false_iff.mp ready) early,
        progress?_eq called⟩

/-! The consumer at rest -/

theorem consumeAll_idle (orderly : t.Orderly) (isOpen : t.sink.closed = false)
    (ended : Parcel α β → ListenerEnd) :
    (consumeAll ended t.sink.queue.length t).handedOver.map HandedOver.ticket = t.accepted := by
  generalize left : t.sink.queue = queue
  induction queue generalizing t with
  | nil =>
    have whole := orderly.whole (orderly.runs isOpen)
    rw [left, List.map_nil, List.append_nil] at whole
    exact whole.symm
  | cons p rest ih =>
    have taken : t.consume (ended p.bare) = { t with
        sink := { t.sink with queue := rest }
        handedOver := t.handedOver ++ [⟨p.ticket, p.bare, ended p.bare⟩] } := by
      unfold consume
      rw [Sink.next?_eq_some.mpr ⟨isOpen, rest, left, rfl⟩]
    rw [List.length_cons, consumeAll, left]
    dsimp only
    rw [taken]
    exact ih (orderly.hand (ended p.bare) isOpen left) isOpen rfl

/-! After the close -/

/-- A sink some time after it was closed. -/
structure Shut (t later : TimedSink α β) : Prop where
  closed : later.sink.closed = true
  handed : later.handedOver = t.handedOver
  refused : ∀ k, t.sends.length ≤ k → k < later.sends.length →
    later.progress? k = some (.returned (.error .closed))

namespace Shut

variable {later : TimedSink α β}

theorem refl (closed : t.sink.closed = true) : Shut t t :=
  ⟨closed, rfl, fun _ after before => absurd after (Nat.not_le_of_lt before)⟩

theorem step (shut : Shut t later) (event : SinkEvent α β) : Shut t (later.step event) := by
  -- A send that was refused stays refused, so only a new one matters.
  have stay := fun k ended => returned_step (t := later) (k := k) (r := .error .closed) ended event
  have turn := later.step_turn event
  generalize later.step event = next at turn stay ⊢
  cases turn with
  | still => exact shut
  | beside _ sink now queue closed ready => exact ⟨closed shut.closed, shut.handed, shut.refused⟩
  | called p =>
    refine ⟨shut.closed, shut.handed, fun k after before => ?_⟩
    change k < (later.sends ++ [_]).length at before
    rw [List.length_append, List.length_singleton] at before
    rcases Nat.lt_succ_iff_lt_or_eq.mp before with old | rfl
    · exact stay k (shut.refused k after old)
    · unfold call progress?
      simp [shut.closed]
  | went _ k old x found going unqueued ready =>
    exact ⟨shut.closed, shut.handed, fun j after before =>
      stay j (shut.refused j after (length_advance later k x ▸ before))⟩
  | queued k p found runs =>
    exact ⟨shut.closed, shut.handed, fun j after before =>
      stay j (shut.refused j after (length_advance { later with sink := _, accepted := _ } k _ ▸ before))⟩
  | handed ended p rest isOpen queue =>
    rw [shut.closed] at isOpen
    cases isOpen
  | stopped ended closed => exact ⟨closed, shut.handed, shut.refused⟩

theorem run (shut : Shut t later) (events : List (SinkEvent α β)) : Shut t (later.run events) := by
  induction events generalizing later with
  | nil => exact shut
  | cons event rest ih => exact ih (shut.step event)

end Shut

/-! The two directions -/

def heardByA (t : TimedSink α β) : List β := t.handedOver.filterMap fun h => h.parcel.forA?

def heardByB (t : TimedSink α β) : List α := t.handedOver.filterMap fun h => h.parcel.forB?

def queuedByA (t : TimedSink α β) : List α := t.accepted.filterMap fun k => (t.parcel? k).bind Parcel.forB?

def queuedByB (t : TimedSink α β) : List β := t.accepted.filterMap fun k => (t.parcel? k).bind Parcel.forA?

/-- What is handed over of one kind is a prefix of what was queued of it. -/
theorem handed_of_kind (orderly : t.Orderly) {γ : Type} (kind : Parcel α β → Option γ) :
    t.handedOver.filterMap (fun h => kind h.parcel) <+:
      t.accepted.filterMap fun k => (t.parcel? k).bind kind := by
  have values : t.handedOver.filterMap (fun h => kind h.parcel) =
      (t.handedOver.map HandedOver.ticket).filterMap fun k => (t.parcel? k).bind kind := by
    rw [List.filterMap_map]
    refine List.filterMap_congr fun h member => ?_
    rw [Function.comp_apply, orderly.handed h member]
    rfl
  rw [values]
  exact orderly.part.filterMap _

/-- Values are handed over in the order in which they were queued, over both directions together, and
each once and to the listener of the opposite end; what was not queued is never handed over. An open
sink hands over everything, a closed one nothing more. -/
theorem handed_over_in_order (limit : Span) (events : List (SinkEvent α β)) :
    let t := run (.new limit) events
    -- what is handed over, and what was queued
    t.handedOver.map HandedOver.ticket <+: t.accepted ∧ t.accepted.Nodup ∧
    (∀ k, k ∈ t.accepted ↔ t.result? k = some (.ok ())) ∧
    (∀ h ∈ t.handedOver, t.parcel? h.ticket = some h.parcel ∧ t.result? h.ticket = some (.ok ())) ∧
    t.heardByA <+: t.queuedByB ∧ t.heardByB <+: t.queuedByA ∧
    -- an open sink
    (t.sink.closed = false →
      (t.sink.queue = [] → t.handedOver.map HandedOver.ticket = t.accepted) ∧
      ∀ ended, (consumeAll ended t.sink.queue.length t).handedOver.map HandedOver.ticket = t.accepted) ∧
    -- a closed sink
    (t.sink.closed = true → ∀ more,
      (run t more).handedOver = t.handedOver ∧
      ∀ k, t.sends.length ≤ k → k < (run t more).sends.length →
        (run t more).result? k = some (.error .closed)) ∧
    -- whatever comes next
    ∀ event, (∀ k r, t.result? k = some r → (t.step event).result? k = some r) ∧
      ((t.step event).accepted = t.accepted ∨
        ∃ k, event = .push k ∧ (t.step event).accepted = t.accepted ++ [k] ∧ t.sink.isReady = true) := by
  intro t
  have orderly : t.Orderly := .run limit events
  have queued (k : SendTicket) : k ∈ t.accepted ↔ t.result? k = some (.ok ()) :=
    (orderly.returned k).trans result?_eq_some.symm
  have handed (h : HandedOver α β) (member : h ∈ t.handedOver) : h.ticket ∈ t.accepted :=
    orderly.part.subset (List.mem_map_of_mem member)
  refine ⟨orderly.part, orderly.once, queued,
    fun h member => ⟨orderly.handed h member, (queued _).mp (handed h member)⟩,
    handed_of_kind orderly Parcel.forA?, handed_of_kind orderly Parcel.forB?, fun isOpen => ⟨?_, ?_⟩,
    fun closed more => ?_, fun event => ⟨fun k r ended => ?_, accepted_step orderly event⟩⟩
  · intro idle
    have all := consumeAll_idle orderly isOpen fun _ => .done
    rw [idle] at all
    exact all
  · exact consumeAll_idle orderly isOpen
  · have shut := (Shut.refl closed).run more
    exact ⟨shut.handed, fun k after before => result?_eq_some.mpr (shut.refused k after before)⟩
  · exact result?_eq_some.mpr (returned_step (result?_eq_some.mp ended) event)

/-- Two sends wait for the second listener. The later one is the first to queue its value and is handed
over, and a close keeps back the other one and everything that is sent from then on. -/
theorem later_send_handed_over_first :
    let t : TimedSink String String := run (.new (.ofSeconds 5))
      [.listen .a, .call (.toB "first"), .call (.toA "second"), .look 0, .listen .b, .look 0, .look 1,
        .push 1, .consume .panicked, .push 0, .close]
    t.handedOver = [⟨1, .toA "second", .panicked⟩] ∧ t.accepted = [1, 0] ∧ t.sink.closed = true ∧
      t.handedOver.map HandedOver.ticket <+: t.accepted ∧
      (run t [.call (.toB "third"), .consume .done]).handedOver = t.handedOver ∧
      (run t [.call (.toB "third"), .consume .done]).result? 2 = some (.error .closed) := by
  intro t
  obtain ⟨inOrder, _, _, _, _, _, _, shut, _⟩ := handed_over_in_order (.ofSeconds 5)
    ([.listen .a, .call (.toB "first"), .call (.toA "second"), .look 0, .listen .b, .look 0, .look 1,
      .push 1, .consume .panicked, .push 0, .close] : List (SinkEvent String String))
  obtain ⟨still, refused⟩ := shut rfl [.call (.toB "third"), .consume .done]
  exact ⟨rfl, rfl, rfl, inOrder, still, refused 2 (by decide) (by decide)⟩

end TimedSink

end ProtocolGateway
