import Mathlib
import ProtocolGateway.Proofs.Gateway.Traffic

/-!
What a move can do to the traffic of a gateway, said once. Everything that holds along histories is
derived from this list of steps.
-/

namespace ProtocolGateway

namespace Traffic

structure Orderly (t : Traffic) : Prop where
  lawful : ∀ hop ∈ t.hops, Lawful t.keys hop
  token : t.interconnection.token = t.keys.interconnection
  keyed : t.interconnection.subscriptions.Keyed
  sequenced : ∀ p, ∀ r ∈ t.asked p, r.isSequenced = true
  /-- Before the start nothing is under way. -/
  idle : t.phase = .created → t.hops = [] ∧ ∀ p, t.pending p = [] ∧ t.asked p = []

/-- Some exchanges have ended without an outcome. -/
def Drops (before after : List Exchange) : Prop :=
  ∀ k : Ticket, after[k]? = before[k]? ∨
    (before[k]? = some .waiting ∧ after[k]? = some (.resolved .dropped))

def superseded (exchanges : List Exchange) : Option Ticket → List Exchange
  | some k => concluded exchanges k .dropped
  | none => exchanges

def round (t : Traffic) (p : ProtocolName) (s : Sequence) : List Note :=
  if (Table.at? (t.pending p) s).isSome then [.cameRound p s] else []

def draw (t : Traffic) (r : Request) : Sequence × Sequencer := t.sequencer.next r.headers.operation

def accepting (t : Traffic) (a : Acceptance) : Traffic :=
  { t with
    pending := Function.update t.pending a.protocol (Table.put a.sequence a.ticket (t.pending a.protocol))
    asked := Function.update t.asked a.protocol (t.asked a.protocol ++ [a.sealed])
    exchanges :=
      superseded (t.exchanges ++ [.waiting]) (Table.at? (t.pending a.protocol) a.sequence) }

def sent : StageResult → Option Hop
  | .ok out => out
  | .error _ => none

inductive Step (t : Traffic) : List Note → Traffic → Prop where
  | quiet : Step t [] t
  /-- A request has used a number up for nothing. -/
  | drawn (r : Request) (running : t.phase = .running) :
      Step t [.drew (t.draw r).1] { t with sequencer := (t.draw r).2 }
  /-- A request has been refused after it had begun to wait. -/
  | refused (p : ProtocolName) (r : Request) (running : t.phase = .running) :
      Step t (.drew (t.draw r).1 :: t.round p (t.draw r).1)
        { t with
          sequencer := (t.draw r).2
          pending := Function.update t.pending p (Table.erase (t.pending p) (t.draw r).1)
          exchanges := concluded
            (superseded (t.exchanges ++ [.waiting]) (Table.at? (t.pending p) (t.draw r).1))
            t.exchanges.length .dropped }
  | accepted (a : Acceptance) (running : t.phase = .running)
      (number : a.sequence = (t.draw a.request).1) (nonzero : a.sequence ≠ 0)
      (new : a.ticket = t.exchanges.length) :
      Step t (.drew a.sequence :: t.round a.protocol a.sequence ++ [.accepted a])
        { t.accepting a with sequencer := (t.draw a.request).2 }
  | abandoned (k : Ticket) (waiting : t.exchanges[k]? = some .waiting) :
      Step t [] { t with exchanges := t.exchanges.set k .abandoned }
  /-- A request has left the sink of its plugin. -/
  | entered (p : ProtocolName) (r : Request) (rest : List Request) (queue : t.asked p = r :: rest) :
      Step t []
        { t with
          asked := Function.update t.asked p rest
          hops := t.onward t.hops (some ⟨.manager, .input, t.keys.asking r p 0⟩) }
  /-- An answer has left the sink of its plugin. -/
  | arrived (p : ProtocolName) (m : Message) :
      Step t []
        { t with hops := t.onward t.hops (some ⟨.manager, .interconnection, t.keys.wrap m p⟩) }
  | admitted (before after : List Hop) (r : Request) (p : ProtocolName)
      (sequenced : r.isSequenced = true)
      (split : t.hops = before ++ ⟨.manager, .input, t.keys.asking r p 0⟩ :: after) :
      Step t []
        { t with
          hops := t.onward (before ++ after) (some ⟨.input, .interconnection, t.keys.asking r p 1⟩) }
  | taken (before after : List Hop) (r : Request) (p : ProtocolName) (ic : Interconnection)
      (out : Option Hop)
      (split : t.hops = before ++ ⟨.input, .interconnection, t.keys.asking r p 1⟩ :: after)
      (takes : Interconnection.Takes t.keys t.interconnection r p ic out) :
      Step t [.crossed p (.request r)]
        { t with interconnection := ic, hops := t.onward (before ++ after) out }
  /-- A request has reached its target, or an error is on its way back. -/
  | delivered (before after : List Hop) (r : Request) (p target : ProtocolName) (out : Option Hop)
      (split : t.hops = before ++ ⟨.interconnection, .manager, t.keys.routed r p target⟩ :: after)
      (next : out = none ∨
        ∃ m q, out = some ⟨.manager, .interconnection, t.keys.wrap m q⟩) :
      Step t [] { t with hops := t.onward (before ++ after) out }
  | heard (before after : List Hop) (m : Message) (p : ProtocolName) (ic : Interconnection)
      (result : StageResult)
      (split : t.hops = before ++ ⟨.manager, .interconnection, t.keys.wrap m p⟩ :: after)
      (hears : Interconnection.Hears t.keys t.interconnection m p ic result) :
      Step t (.crossed p m :: Gateway.breakNotes result)
        { t with interconnection := ic, hops := t.onward (before ++ after) (sent result) }
  | released (before after : List Hop) (m : Message) (p : ProtocolName) (l : ReplyTo) (hops : Nat)
      (answer : m.isReplyLike = true) (receivers : l ≠ []) (early : hops = 1 ∨ hops = 2)
      (split : t.hops =
        before ++ ⟨.interconnection, .output, t.keys.answering m p l hops⟩ :: after) :
      Step t []
        { t with
          hops := t.onward (before ++ after)
            (some ⟨.output, .manager, t.keys.answering m p l (hops + 1)⟩) }
  | resolved (before after : List Hop) (m : Message) (p : ProtocolName) (l : ReplyTo) (hops : Nat)
      (split : t.hops = before ++ ⟨.output, .manager, t.keys.answering m p l hops⟩ :: after)
      (answer : m.isReplyLike = true) :
      Step t (t.missed m (receipts l))
        ((receipts l).foldl (·.resolve m) { t with hops := before ++ after })
  | started (created : t.phase = .created) : Step t [] { t with phase := .running }
  | stopped (exchanges : List Exchange) (drops : Drops t.exchanges exchanges) :
      Step t [] { t with phase := .stopped, pending := fun _ => [], exchanges := exchanges }
  | gone : Step t [] { t with phase := .gone }

/-! Exchanges -/

theorem concluded_at (exchanges : List Exchange) (k : Ticket) (x : Resolution) (j : Ticket) :
    (concluded exchanges k x)[j]? =
      if k = j ∧ exchanges[k]? = some .waiting then some (.resolved x) else exchanges[j]? := by
  unfold concluded
  split
  · rename_i waiting
    obtain ⟨bound, _⟩ := List.getElem?_eq_some_iff.mp waiting
    by_cases same : k = j
    · subst same
      rw [if_pos ⟨rfl, waiting⟩, List.getElem?_set_self bound]
    · rw [if_neg fun both => same both.1, List.getElem?_set_ne same]
  · rename_i busy
    rw [if_neg fun both => busy both.2]

theorem superseded_at (exchanges : List Exchange) (old : Option Ticket) (j : Ticket) :
    (superseded exchanges old)[j]? =
      if old = some j ∧ exchanges[j]? = some .waiting then some (.resolved .dropped)
      else exchanges[j]? := by
  cases old with
  | none => simp [superseded]
  | some k =>
    rw [superseded, concluded_at]
    by_cases same : k = j
    · subst same
      simp
    · simp [same]

theorem length_concluded (exchanges : List Exchange) (k : Ticket) (x : Resolution) :
    (concluded exchanges k x).length = exchanges.length := by
  unfold concluded
  split <;> simp

theorem length_superseded (exchanges : List Exchange) (old : Option Ticket) :
    (superseded exchanges old).length = exchanges.length := by
  cases old with
  | none => rfl
  | some k => exact length_concluded exchanges k .dropped

theorem superseded_old {exchanges : List Exchange} {j : Ticket} (early : j < exchanges.length)
    (old : Option Ticket) :
    (superseded (exchanges ++ [.waiting]) old)[j]? =
      if old = some j ∧ exchanges[j]? = some .waiting then some (.resolved .dropped)
      else exchanges[j]? := by
  rw [superseded_at, List.getElem?_append_left early]

theorem refused_old {exchanges : List Exchange} {j : Ticket} (early : j < exchanges.length)
    (old : Option Ticket) :
    (concluded (superseded (exchanges ++ [.waiting]) old) exchanges.length .dropped)[j]? =
      if old = some j ∧ exchanges[j]? = some .waiting then some (.resolved .dropped)
      else exchanges[j]? := by
  rw [concluded_at, if_neg fun both => Nat.ne_of_gt early both.1, superseded_old early]

theorem drops_all (tickets : List Ticket) (exchanges : List Exchange) :
    Drops exchanges (tickets.foldl (fun xs k => concluded xs k .dropped) exchanges) := by
  induction tickets generalizing exchanges with
  | nil => exact fun _ => Or.inl rfl
  | cons k rest ih =>
    intro j
    have first := concluded_at exchanges k .dropped j
    rcases ih (concluded exchanges k .dropped) j with same | ⟨waiting, dropped⟩
    · rw [List.foldl_cons, same, first]
      split
      · rename_i both
        exact Or.inr ⟨both.1 ▸ both.2, rfl⟩
      · exact Or.inl rfl
    · rw [first] at waiting
      split at waiting
      · cases waiting
      · exact Or.inr ⟨waiting, dropped⟩

/-! What waits -/

theorem at?_accepting (t : Traffic) (a : Acceptance) (q : ProtocolName) (u : Sequence) :
    Table.at? ((t.accepting a).pending q) u =
      if q = a.protocol ∧ a.sequence = u then some a.ticket else Table.at? (t.pending q) u := by
  change Table.at? (Function.update t.pending a.protocol _ q) u = _
  rw [Function.update_apply]
  by_cases same : q = a.protocol
  · rw [if_pos same, Table.at?_put, same]
    simp
  · rw [if_neg same, if_neg fun both => same both.1]

theorem at?_refused (t : Traffic) (p : ProtocolName) (s : Sequence) (q : ProtocolName) (u : Sequence) :
    Table.at? (Function.update t.pending p (Table.erase (t.pending p) s) q) u =
      if q = p ∧ s = u then none else Table.at? (t.pending q) u := by
  rw [Function.update_apply]
  by_cases same : q = p
  · rw [if_pos same, Table.at?_erase, same]
    simp
  · rw [if_neg same, if_neg fun both => same both.1]

/-- A request under a number of a plugin leaves the older ones as they were, but for the one that
waits under the same number: it is superseded. -/
structure Supersedes (t t' : Traffic) (p : ProtocolName) (s : Sequence) : Prop where
  exchange : ∀ k < t.exchanges.length, t'.exchanges[k]? =
    if Table.at? (t.pending p) s = some k ∧ t.exchanges[k]? = some .waiting then
      some (.resolved .dropped)
    else t.exchanges[k]?
  record : ∀ q u, ¬(q = p ∧ s = u) → Table.at? (t'.pending q) u = Table.at? (t.pending q) u

theorem supersedes_accepted (t : Traffic) (a : Acceptance) (q : Sequencer) :
    t.Supersedes { t.accepting a with sequencer := q } a.protocol a.sequence where
  exchange _ early := superseded_old early _
  record p u other := (t.at?_accepting a p u).trans (if_neg other)

theorem supersedes_refused (t : Traffic) (p : ProtocolName) (r : Request) :
    t.Supersedes { t with
      sequencer := (t.draw r).2
      pending := Function.update t.pending p (Table.erase (t.pending p) (t.draw r).1)
      exchanges := concluded
        (superseded (t.exchanges ++ [.waiting]) (Table.at? (t.pending p) (t.draw r).1))
        t.exchanges.length .dropped } p (t.draw r).1 where
  exchange _ early := refused_old early _
  record q u other := (t.at?_refused p (t.draw r).1 q u).trans (if_neg other)

theorem asked_accepting {t : Traffic} {a : Acceptance} {p : ProtocolName} {r : Request}
    (member : r ∈ (t.accepting a).asked p) : r ∈ t.asked p ∨ p = a.protocol ∧ r = a.sealed := by
  change r ∈ Function.update t.asked a.protocol _ p at member
  rw [Function.update_apply] at member
  split at member
  · rename_i same
    rw [same]
    exact (List.mem_append.mp member).imp_right fun last => ⟨rfl, List.mem_singleton.mp last⟩
  · exact Or.inl member

/-! Notes of a submission -/

theorem mem_round {t : Traffic} {p : ProtocolName} {s : Sequence} {n : Note}
    (member : n ∈ t.round p s) : n = .cameRound p s ∧ (Table.at? (t.pending p) s).isSome := by
  unfold round at member
  split at member
  · rename_i waits
    exact ⟨List.mem_singleton.mp member, waits⟩
  · cases member

theorem round_of_waits {t : Traffic} {p : ProtocolName} {s : Sequence} {k : Ticket}
    (waits : Table.at? (t.pending p) s = some k) : .cameRound p s ∈ t.round p s := by
  unfold round
  rw [waits]
  exact List.mem_singleton.mpr rfl

theorem absent_of_fresh {t : Traffic} {p : ProtocolName} {s : Sequence}
    (fresh : .cameRound p s ∉ t.round p s) : Table.at? (t.pending p) s = none := by
  cases waits : Table.at? (t.pending p) s with
  | none => rfl
  | some k => exact absurd (round_of_waits waits) fresh

theorem mem_refused {t : Traffic} {p : ProtocolName} {s : Sequence} {n : Note}
    (member : n ∈ .drew s :: t.round p s) : n = .drew s ∨ n ∈ t.round p s :=
  List.mem_cons.mp member

theorem mem_accepted {t : Traffic} {a : Acceptance} {n : Note}
    (member : n ∈ .drew a.sequence :: t.round a.protocol a.sequence ++ [.accepted a]) :
    n = .drew a.sequence ∨ n ∈ t.round a.protocol a.sequence ∨ n = .accepted a := by
  rcases List.mem_append.mp member with refused | last
  · exact (mem_refused refused).imp_right Or.inl
  · exact Or.inr (Or.inr (List.mem_singleton.mp last))

theorem accepted_before {t : Traffic} {log : List Note} {p : ProtocolName} {s : Sequence}
    {a : Acceptance} (member : .accepted a ∈ log ++ .drew s :: t.round p s) : .accepted a ∈ log := by
  rcases List.mem_append.mp member with old | new
  · exact old
  · rcases mem_refused new with drew | round
    · cases drew
    · cases (mem_round round).1

theorem accepted_or_new {t : Traffic} {log : List Note} {a b : Acceptance}
    (member : .accepted b ∈
      log ++ (.drew a.sequence :: t.round a.protocol a.sequence ++ [.accepted a])) :
    .accepted b ∈ log ∨ b = a := by
  rcases List.mem_append.mp member with old | new
  · exact Or.inl old
  · rcases mem_accepted new with drew | round | last
    · cases drew
    · cases (mem_round round).1
    · cases last
      exact Or.inr rfl

end Traffic

end ProtocolGateway
