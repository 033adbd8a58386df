import Mathlib
import ProtocolGateway.Proofs.Gateway.Numbers

/-!
Accepted requests, their tickets and their exchanges. What waits was accepted, an exchange that still
waits has its request on record, and an outcome answers to the number of its request.
-/

namespace ProtocolGateway

namespace Traffic

def Live (t : Traffic) : Prop := t.phase = .created ∨ t.phase = .running

theorem Step.live {t t' : Traffic} {notes : List Note} (step : Step t notes t') (live : t'.Live) :
    t.Live := by
  cases step with
  | resolved before after m p l hops split answer =>
    have phase := (beside_resolveAll { t with hops := before ++ after } m (receipts l)).phase
    unfold Live at live ⊢
    rw [phase] at live
    exact live
  | started created => exact Or.inl created
  | stopped | gone => rcases live with created | running <;> contradiction
  | _ => exact live

end Traffic

theorem Gateway.sequence_resolutionOf {m : Message} (answer : m.isReplyLike = true) (s : Sequence) :
    (resolutionOf m s).sequence? = some s := by
  cases m with
  | request r => cases answer
  | reply r | error e => rfl

structure Accounted (t : Traffic) (log : List Note) : Prop where
  known : ∀ p s k, Table.at? (t.pending p) s = some k →
    ∃ a, .accepted a ∈ log ∧ a.protocol = p ∧ a.sequence = s ∧ a.ticket = k
  numbered : ∀ a, .accepted a ∈ log → .drew a.sequence ∈ log
  issued : ∀ a, .accepted a ∈ log → a.ticket < t.exchanges.length
  distinct : ∀ a b, .accepted a ∈ log → .accepted b ∈ log → a.ticket = b.ticket → a = b
  /-- Of what waits, no exchange has an outcome yet. -/
  undecided : ∀ p s k, Table.at? (t.pending p) s = some k →
    ∀ x, t.exchanges[k]? ≠ some (.resolved x)
  onRecord : t.Live → ∀ a, .accepted a ∈ log → t.exchanges[a.ticket]? = some .waiting →
    Table.at? (t.pending a.protocol) a.sequence = some a.ticket
  ended : ∀ a, .accepted a ∈ log → ∀ x, t.exchanges[a.ticket]? = some (.resolved x) →
    x.sequence? = some a.sequence ∨
      x = .dropped ∧ (¬t.Live ∨ .cameRound a.protocol a.sequence ∈ log)
  /-- A number comes round only when its range is used up. -/
  spent : ∀ p s, .cameRound p s ∈ log → 0x7FFFFFFF ≤ drawn s.isObserve log

namespace Accounted

variable {t t' : Traffic} {log notes : List Note}

theorem new (config : ManagerConfig) (cache : ReplyCache) :
    Accounted (Gateway.new config cache).traffic [] where
  known _ _ _ found := nomatch found
  numbered _ member := nomatch member
  issued _ member := nomatch member
  distinct _ _ member := nomatch member
  undecided _ _ _ found := nomatch found
  onRecord _ _ member := nomatch member
  ended _ member := nomatch member
  spent _ _ member := nomatch member

theorem owner (accounted : Accounted t log) {a : Acceptance} (member : .accepted a ∈ log)
    {p : ProtocolName} {s : Sequence} (waits : Table.at? (t.pending p) s = some a.ticket) :
    a.protocol = p ∧ a.sequence = s := by
  obtain ⟨b, accepted, rfl, rfl, ticket⟩ := accounted.known p s a.ticket waits
  rw [accounted.distinct a b member accepted ticket.symm]
  exact ⟨rfl, rfl⟩

theorem spent_mono (accounted : Accounted t log) {p : ProtocolName} {s : Sequence}
    (member : .cameRound p s ∈ log) : 0x7FFFFFFF ≤ drawn s.isObserve (log ++ notes) := by
  rw [drawn_append]
  exact (accounted.spent p s member).trans (Nat.le_add_right _ _)

/-- Steps that neither accept nor end anything. -/
theorem frame (accounted : Accounted t log) (pending : t'.pending = t.pending)
    (exchanges : t'.exchanges = t.exchanges) (live : t'.Live → t.Live)
    (old : ∀ a, .accepted a ∉ notes) (fresh : ∀ p s, .cameRound p s ∉ notes) :
    Accounted t' (log ++ notes) := by
  have before {a : Acceptance} (member : .accepted a ∈ log ++ notes) : .accepted a ∈ log :=
    (List.mem_append.mp member).resolve_right (old a)
  constructor
  case known =>
    intro p s k found
    rw [pending] at found
    obtain ⟨a, member, rest⟩ := accounted.known p s k found
    exact ⟨a, List.mem_append_left _ member, rest⟩
  case numbered =>
    intro a member
    exact List.mem_append_left _ (accounted.numbered a (before member))
  case issued =>
    intro a member
    rw [exchanges]
    exact accounted.issued a (before member)
  case distinct =>
    intro a b first second
    exact accounted.distinct a b (before first) (before second)
  case undecided =>
    rw [pending, exchanges]
    exact accounted.undecided
  case onRecord =>
    intro alive a member waiting
    rw [exchanges] at waiting
    rw [pending]
    exact accounted.onRecord (live alive) a (before member) waiting
  case ended =>
    intro a member x outcome
    rw [exchanges] at outcome
    refine (accounted.ended a (before member) x outcome).imp_right fun ⟨dropped, why⟩ =>
      ⟨dropped, why.imp (fun dead alive => dead (live alive)) (List.mem_append_left _)⟩
  case spent =>
    intro p s member
    exact accounted.spent_mono ((List.mem_append.mp member).resolve_right (fresh p s))

/-- Tickets are distinct, so one waits in one place. -/
theorem apart (accounted : Accounted t log) {p q : ProtocolName} {s u : Sequence} {k : Ticket}
    (first : Table.at? (t.pending p) s = some k) (second : Table.at? (t.pending q) u = some k) :
    (p, s) = (q, u) := by
  obtain ⟨a, member, rfl, rfl, rfl⟩ := accounted.known p s k first
  obtain ⟨protocol, number⟩ := accounted.owner member second
  rw [protocol, number]

theorem resolve (accounted : Accounted t log) {m : Message} (answer : m.isReplyLike = true)
    (x : ProtocolName × Sequence) : Accounted (t.resolve m x) log := by
  have live : (t.resolve m x).Live → t.Live := by
    unfold Traffic.Live
    rw [(t.beside_resolve m x).phase]
    exact id
  refine {
    known := ?known, numbered := accounted.numbered, issued := ?issued
    distinct := accounted.distinct, undecided := ?undecided, onRecord := ?onRecord
    ended := ?ended, spent := accounted.spent }
  case known =>
    intro p s k still
    exact accounted.known p s k (Traffic.waits_resolve still).2
  case issued =>
    intro a member
    rw [Traffic.length_resolve]
    exact accounted.issued a member
  case undecided =>
    intro p s k still y
    obtain ⟨other, before⟩ := Traffic.waits_resolve still
    rw [Traffic.exchange_resolve]
    split
    · rename_i both
      exact absurd (accounted.apart both.1 before) other
    · exact accounted.undecided p s k before y
  -- A record that has been taken off would leave an exchange that is no longer open.
  case onRecord =>
    intro alive a member open'
    rw [Traffic.exchange_resolve] at open'
    split at open'
    · cases open'
    · rename_i neither
      have before := accounted.onRecord (live alive) a member open'
      rw [Traffic.at?_resolve, if_neg, before]
      rintro rfl
      exact neither ⟨before, open'⟩
  case ended =>
    intro a member y outcome
    rw [Traffic.exchange_resolve] at outcome
    split at outcome
    · rename_i both
      obtain ⟨_, number⟩ := accounted.owner member both.1
      cases outcome
      rw [number]
      exact Or.inl (Gateway.sequence_resolutionOf answer x.2)
    · rcases accounted.ended a member y outcome with answered | ⟨dropped, why⟩
      · exact Or.inl answered
      · exact Or.inr ⟨dropped, why.imp_left fun dead alive => dead (live alive)⟩

theorem resolveAll (accounted : Accounted t log) {m : Message} (answer : m.isReplyLike = true)
    (xs : List (ProtocolName × Sequence)) : Accounted (xs.foldl (·.resolve m) t) log := by
  induction xs generalizing t with
  | nil => exact accounted
  | cons x rest ih => exact ih (accounted.resolve answer x)

/-- A number under which a request waits was given out before, so its range is used up. -/
theorem spent_of_waits (accounted : Accounted t log) (numbered : Numbered t log) {p : ProtocolName}
    {r : Request} (waits : (Table.at? (t.pending p) (t.draw r).1).isSome) :
    0x7FFFFFFF ≤ drawn (t.draw r).1.isObserve log := by
  by_contra few
  rw [Nat.not_le] at few
  obtain ⟨k, found⟩ := Option.isSome_iff_exists.mp waits
  obtain ⟨a, accepted, _, number, _⟩ := accounted.known p _ k found
  have before := accounted.numbered a accepted
  rw [number] at before
  -- While the range lasts, the next number is above all that were given out.
  have earlier := numbered.earlier _ _ few before rfl
  have next := (t.sequencer.next_eq r.headers.operation).1
  change (t.draw r).1 = _ at next
  rw [numbered.range_draw r] at earlier few
  have counted := numbered.counted _ few
  rw [← next] at counted
  omega

theorem spent_drawn (accounted : Accounted t log) (numbered : Numbered t log) {p q : ProtocolName}
    {r : Request} {s : Sequence} (member : .cameRound q s ∈ t.round p (t.draw r).1) :
    0x7FFFFFFF ≤ drawn s.isObserve (log ++ notes) := by
  obtain ⟨same, waits⟩ := Traffic.mem_round member
  cases same
  rw [drawn_append]
  exact (accounted.spent_of_waits numbered waits).trans (Nat.le_add_right _ _)

theorem round_of_owner (accounted : Accounted t log) {a : Acceptance} (member : .accepted a ∈ log)
    {p : ProtocolName} {s : Sequence} (waits : Table.at? (t.pending p) s = some a.ticket) :
    .cameRound a.protocol a.sequence ∈ t.round p s := by
  obtain ⟨protocol, number⟩ := accounted.owner member waits
  rw [protocol, number]
  exact Traffic.round_of_waits waits

/-! Requests that were accepted before -/

theorem undecided_old (accounted : Accounted t log) {p : ProtocolName} {s : Sequence}
    (supersedes : t.Supersedes t' p s) {q : ProtocolName} {u : Sequence} {k : Ticket}
    (found : Table.at? (t.pending q) u = some k) (other : ¬(q = p ∧ s = u)) (x : Resolution) :
    t'.exchanges[k]? ≠ some (.resolved x) := by
  obtain ⟨a, member, rfl, rfl, rfl⟩ := accounted.known q u k found
  rw [supersedes.exchange _ (accounted.issued a member)]
  split
  · rename_i both
    obtain ⟨protocol, number⟩ := accounted.owner member both.1
    exact absurd ⟨protocol, number.symm⟩ other
  · exact accounted.undecided _ _ _ found x

theorem onRecord_old (accounted : Accounted t log) {p : ProtocolName} {s : Sequence}
    (supersedes : t.Supersedes t' p s) (live : t.Live) {a : Acceptance}
    (member : .accepted a ∈ log) (open' : t'.exchanges[a.ticket]? = some .waiting) :
    Table.at? (t'.pending a.protocol) a.sequence = some a.ticket := by
  rw [supersedes.exchange _ (accounted.issued a member)] at open'
  split at open'
  · cases open'
  · rename_i neither
    have found := accounted.onRecord live a member open'
    rw [supersedes.record, found]
    rintro ⟨here, same⟩
    rw [here, ← same] at found
    exact neither ⟨found, open'⟩

theorem ended_old (accounted : Accounted t log) {p : ProtocolName} {s : Sequence}
    (supersedes : t.Supersedes t' p s) (noted : t.round p s ⊆ notes) {a : Acceptance}
    (member : .accepted a ∈ log) {x : Resolution}
    (outcome : t'.exchanges[a.ticket]? = some (.resolved x)) :
    x.sequence? = some a.sequence ∨
      x = .dropped ∧ (¬t.Live ∨ .cameRound a.protocol a.sequence ∈ log ++ notes) := by
  rw [supersedes.exchange _ (accounted.issued a member)] at outcome
  split at outcome
  · rename_i both
    cases outcome
    have round := noted (accounted.round_of_owner member both.1)
    exact Or.inr ⟨rfl, Or.inr (List.mem_append_right _ round)⟩
  · rcases accounted.ended a member x outcome with own | ⟨dropped, why⟩
    · exact Or.inl own
    · exact Or.inr ⟨dropped, why.imp_right (List.mem_append_left _)⟩

theorem refuse (accounted : Accounted t log) (numbered : Numbered t log) (p : ProtocolName)
    (r : Request) :
    Accounted { t with
      sequencer := (t.draw r).2
      pending := Function.update t.pending p (Table.erase (t.pending p) (t.draw r).1)
      exchanges := Traffic.concluded
        (Traffic.superseded (t.exchanges ++ [.waiting]) (Table.at? (t.pending p) (t.draw r).1))
        t.exchanges.length .dropped } (log ++ .drew (t.draw r).1 :: t.round p (t.draw r).1) := by
  have supersedes := t.supersedes_refused p r
  -- The refused number is off the record, so whoever still waits does so under another one.
  have survives {q : ProtocolName} {u : Sequence} {k : Ticket}
      (still : Table.at? (Function.update t.pending p (Table.erase (t.pending p) (t.draw r).1) q) u =
        some k) : Table.at? (t.pending q) u = some k ∧ ¬(q = p ∧ (t.draw r).1 = u) := by
    rw [Traffic.at?_refused] at still
    split at still
    · cases still
    · rename_i other
      exact ⟨still, other⟩
  constructor
  case known =>
    intro q u k still
    obtain ⟨a, member, rest⟩ := accounted.known q u k (survives still).1
    exact ⟨a, List.mem_append_left _ member, rest⟩
  case numbered =>
    intro a member
    exact List.mem_append_left _ (accounted.numbered a (Traffic.accepted_before member))
  case issued =>
    intro a member
    have old := accounted.issued a (Traffic.accepted_before member)
    simp only [Traffic.length_concluded, Traffic.length_superseded, List.length_append,
      List.length_singleton]
    omega
  case distinct =>
    intro a b first second
    exact accounted.distinct a b (Traffic.accepted_before first) (Traffic.accepted_before second)
  case undecided =>
    intro q u k still
    obtain ⟨found, other⟩ := survives still
    exact accounted.undecided_old supersedes found other
  case onRecord =>
    intro live a member open'
    exact accounted.onRecord_old supersedes live (Traffic.accepted_before member) open'
  case ended =>
    intro a member x outcome
    exact accounted.ended_old supersedes (List.subset_cons_self _ _)
      (Traffic.accepted_before member) outcome
  case spent =>
    intro q u member
    rcases List.mem_append.mp member with old | new
    · exact accounted.spent_mono old
    · rcases Traffic.mem_refused new with drew | round
      · cases drew
      · exact accounted.spent_drawn numbered round

/-- No older request has the ticket of a new one, so the new exchange stays open. -/
theorem fresh (accounted : Accounted t log) {a : Acceptance} (new : a.ticket = t.exchanges.length) :
    (t.accepting a).exchanges[a.ticket]? = some .waiting := by
  change (Traffic.superseded _ _)[a.ticket]? = _
  rw [Traffic.superseded_at]
  split
  · rename_i both
    obtain ⟨b, member, _, _, same⟩ := accounted.known _ _ _ both.1
    exact absurd (same.trans new) (Nat.ne_of_lt (accounted.issued b member))
  · rw [new, List.getElem?_concat_length]

theorem accept (accounted : Accounted t log) (numbered : Numbered t log) {a : Acceptance}
    (number : a.sequence = (t.draw a.request).1) (new : a.ticket = t.exchanges.length) :
    Accounted { t.accepting a with sequencer := (t.draw a.request).2 }
      (log ++ (.drew a.sequence :: t.round a.protocol a.sequence ++ [.accepted a])) := by
  have supersedes := t.supersedes_accepted a (t.draw a.request).2
  have fresh := accounted.fresh new
  -- The new ticket is one past the last exchange, so no older request has it.
  have early {b : Acceptance} (member : .accepted b ∈ log) : b.ticket ≠ a.ticket :=
    new ▸ Nat.ne_of_lt (accounted.issued b member)
  constructor
  case known =>
    intro q u k found
    rw [Traffic.at?_accepting] at found
    split at found
    · rename_i here
      cases found
      exact ⟨a, by simp, here.1.symm, here.2, rfl⟩
    · obtain ⟨b, member, rest⟩ := accounted.known q u k found
      exact ⟨b, List.mem_append_left _ member, rest⟩
  case numbered =>
    intro b member
    rcases Traffic.accepted_or_new member with old | rfl
    · exact List.mem_append_left _ (accounted.numbered b old)
    · exact List.mem_append_right _ List.mem_cons_self
  case issued =>
    intro b member
    change b.ticket < (Traffic.superseded _ _).length
    rw [Traffic.length_superseded, List.length_append, List.length_singleton]
    rcases Traffic.accepted_or_new member with old | rfl
    · exact Nat.lt_succ_of_lt (accounted.issued b old)
    · rw [new]
      exact Nat.lt_succ_self _
  case distinct =>
    intro b c first second same
    rcases Traffic.accepted_or_new first with oldB | rfl
    · rcases Traffic.accepted_or_new second with oldC | rfl
      · exact accounted.distinct b c oldB oldC same
      · exact absurd same (early oldB)
    · rcases Traffic.accepted_or_new second with oldC | rfl
      · exact absurd same.symm (early oldC)
      · rfl
  case undecided =>
    intro q u k found x
    rw [Traffic.at?_accepting] at found
    split at found
    · cases found
      change (t.accepting a).exchanges[a.ticket]? ≠ _
      rw [fresh]
      simp
    · rename_i other
      exact accounted.undecided_old supersedes found other x
  case onRecord =>
    intro live b member open'
    rcases Traffic.accepted_or_new member with old | rfl
    · exact accounted.onRecord_old supersedes live old open'
    · exact (t.at?_accepting b b.protocol b.sequence).trans (if_pos ⟨rfl, rfl⟩)
  case ended =>
    intro b member x outcome
    rcases Traffic.accepted_or_new member with old | rfl
    · refine accounted.ended_old supersedes (fun n round => ?_) old outcome
      exact List.mem_append_left _ (List.mem_cons_of_mem _ round)
    · cases fresh.symm.trans outcome
  case spent =>
    intro q u member
    rcases List.mem_append.mp member with old | new
    · exact accounted.spent_mono old
    · rcases Traffic.mem_accepted new with drew | round | last
      · cases drew
      · rw [number] at round
        exact accounted.spent_drawn numbered round
      · cases last

theorem abandon (accounted : Accounted t log) {k : Ticket}
    (waiting : t.exchanges[k]? = some .waiting) :
    Accounted { t with exchanges := t.exchanges.set k .abandoned } log := by
  obtain ⟨bound, _⟩ := List.getElem?_eq_some_iff.mp waiting
  have exchange (j : Ticket) : (t.exchanges.set k .abandoned)[j]? =
      if k = j then some .abandoned else t.exchanges[j]? := by
    by_cases same : k = j
    · subst same
      rw [if_pos rfl, List.getElem?_set_self bound]
    · rw [if_neg same, List.getElem?_set_ne same]
  refine {
    known := accounted.known, numbered := accounted.numbered, issued := ?issued
    distinct := accounted.distinct, undecided := ?undecided, onRecord := ?onRecord
    ended := ?ended, spent := accounted.spent }
  case issued =>
    intro a member
    rw [List.length_set]
    exact accounted.issued a member
  case undecided =>
    intro p s j found x
    rw [exchange]
    split
    · simp
    · exact accounted.undecided p s j found x
  case onRecord =>
    intro live a member open'
    rw [exchange] at open'
    split at open'
    · cases open'
    · exact accounted.onRecord live a member open'
  case ended =>
    intro a member x outcome
    rw [exchange] at outcome
    split at outcome
    · cases outcome
    · exact accounted.ended a member x outcome

theorem stop (accounted : Accounted t log) {exchanges : List Exchange}
    (drops : Traffic.Drops t.exchanges exchanges) :
    Accounted { t with phase := .stopped, pending := fun _ => [], exchanges := exchanges } log := by
  have dead : ¬Traffic.Live { t with
      phase := .stopped, pending := fun _ => [], exchanges := exchanges } := by
    rintro (created | running) <;> contradiction
  refine ⟨fun _ _ _ found => (nomatch found), accounted.numbered, ?_, accounted.distinct,
    fun _ _ _ found => (nomatch found), fun live => absurd live dead, ?_, accounted.spent⟩
  · intro a member
    have early := accounted.issued a member
    rcases drops a.ticket with same | ⟨_, dropped⟩
    · rw [List.getElem?_eq_getElem early] at same
      obtain ⟨bound, _⟩ := List.getElem?_eq_some_iff.mp same
      exact bound
    · obtain ⟨bound, _⟩ := List.getElem?_eq_some_iff.mp dropped
      exact bound
  · intro a member x outcome
    rcases drops a.ticket with same | ⟨_, dropped⟩
    · refine (accounted.ended a member x (same ▸ outcome)).imp_right fun ⟨dropped, _⟩ =>
        ⟨dropped, Or.inl dead⟩
    · have same : x = .dropped := by
        have eq := outcome.symm.trans dropped
        cases eq
        rfl
      exact Or.inr ⟨same, Or.inl dead⟩

theorem step (accounted : Accounted t log) (numbered : Numbered t log) (step : t.Step notes t') :
    Accounted t' (log ++ notes) := by
  have live := step.live
  cases step with
  | refused p r running => exact accounted.refuse numbered p r
  | accepted a running number nonzero new => exact accounted.accept numbered number new
  | abandoned k waiting =>
    rw [List.append_nil]
    exact accounted.abandon waiting
  | stopped exchanges drops =>
    rw [List.append_nil]
    exact accounted.stop drops
  | resolved before after m p l hops split answer =>
    have left : Accounted { t with hops := before ++ after } log :=
      List.append_nil log ▸ accounted.frame rfl rfl id (fun a => List.not_mem_nil)
        (fun p s => List.not_mem_nil)
    have still (n : Note) (member : n ∈ t.missed m (receipts l)) : ∃ p s, n = .missed p s :=
      Traffic.mem_missed member
    exact (left.resolveAll answer (receipts l)).frame rfl rfl id
      (fun a member => by
        obtain ⟨_, _, same⟩ := still _ member
        cases same)
      (fun p s member => by
        obtain ⟨_, _, same⟩ := still _ member
        cases same)
  -- What is left neither accepts a request nor ends one, so the frame lemma does.
  | heard before after m p ic result split hears =>
    refine accounted.frame rfl rfl live (fun a member => ?_) (fun q u member => ?_)
    · rcases List.mem_cons.mp member with crossed | broken
      · cases crossed
      · cases mem_breakNotes broken
    · rcases List.mem_cons.mp member with crossed | broken
      · cases crossed
      · cases mem_breakNotes broken
  | drawn | taken =>
    refine accounted.frame ?_ ?_ live (fun a member => ?_) (fun q u member => ?_)
    · rfl
    · rfl
    · cases List.mem_singleton.mp member
    · cases List.mem_singleton.mp member
  | quiet | entered | arrived | admitted | delivered | released | started | gone =>
    refine accounted.frame ?_ ?_ live (fun a => List.not_mem_nil) (fun q u => List.not_mem_nil)
    · rfl
    · rfl

end Accounted

/-! Outcomes -/

theorem Traffic.Step.outcome {t t' : Traffic} {notes : List Note} (step : Step t notes t')
    {k : Ticket} {x : Resolution} (ended : t.exchanges[k]? = some (.resolved x)) :
    t'.exchanges[k]? = some (.resolved x) := by
  obtain ⟨bound, _⟩ := List.getElem?_eq_some_iff.mp ended
  have longer : (t.exchanges ++ [.waiting])[k]? = some (.resolved x) :=
    (List.getElem?_append_left bound).trans ended
  have superseded (old : Option Ticket) :
      (Traffic.superseded (t.exchanges ++ [.waiting]) old)[k]? = some (.resolved x) := by
    rw [superseded_at, longer, if_neg fun both => by cases both.2]
  have concluded (xs : List Exchange) (j : Ticket) (y : Resolution)
      (before : xs[k]? = some (.resolved x)) :
      (Traffic.concluded xs j y)[k]? = some (.resolved x) := by
    rw [concluded_at, if_neg, before]
    rintro ⟨rfl, waiting⟩
    cases before.symm.trans waiting
  cases step with
  | refused p r running => exact concluded _ _ _ (superseded _)
  | accepted a running number nonzero new => exact superseded _
  | abandoned j waiting =>
    change (t.exchanges.set j .abandoned)[k]? = _
    rw [List.getElem?_set_ne, ended]
    rintro rfl
    cases ended.symm.trans waiting
  | stopped exchanges drops =>
    rcases drops k with same | ⟨waiting, _⟩
    · exact same.trans ended
    · cases ended.symm.trans waiting
  | resolved before after m p l hops split answer =>
    exact resolved_resolveAll (t := { t with hops := before ++ after }) ended m (receipts l)
  | _ => exact ended

namespace History

theorem facts (config : ManagerConfig) (cache : ReplyCache) (moves : List Move) :
    (run config cache moves).gateway.traffic.Orderly ∧
      Numbered (run config cache moves).gateway.traffic (run config cache moves).log ∧
      Accounted (run config cache moves).gateway.traffic (run config cache moves).log :=
  holds (P := fun t log => Numbered t log ∧ Accounted t log)
    ⟨numbered_new config cache, .new config cache⟩
    (fun _ _ _ _ _ before step => ⟨before.1.step step, before.2.step before.1 step⟩) moves

theorem not_round (config : ManagerConfig) (cache : ReplyCache) {moves : List Move}
    (few : ∀ observes, submissions observes moves < 0x7FFFFFFF) (p : ProtocolName) (s : Sequence) :
    .cameRound p s ∉ (run config cache moves).log := by
  intro member
  have many := (facts config cache moves).2.2.spent p s member
  have bound := drawn_le_submissions config cache s.isObserve moves
  have := few s.isObserve
  omega

theorem outcome_stays (config : ManagerConfig) (cache : ReplyCache) (moves more : List Move)
    {k : Ticket} {x : Resolution}
    (ended : (run config cache moves).gateway.exchanges[k]? = some (.resolved x)) :
    (run config cache (moves ++ more)).gateway.exchanges[k]? = some (.resolved x) := by
  induction more using List.reverseRecOn with
  | nil =>
    rw [List.append_nil]
    exact ended
  | append_singleton more m ih =>
    rw [← List.append_assoc, run_append]
    have orderly := (facts config cache (moves ++ more)).1
    exact ((run config cache (moves ++ more)).gateway.step_move orderly m).outcome ih

end History

end ProtocolGateway
