import Mathlib
import ProtocolGateway.Proofs.Gateway.Answering

/-!
An account of what is forwarded. Every hop comes from one value that a plugin has handed in, and no
value is forwarded more than six times.
-/

namespace ProtocolGateway

/-- A gateway with an account of the values that plugins hand in. A value is known by the place it
has among those that the manager took in. -/
structure Ledger where
  gateway : Gateway
  /-- The hops under way in their order, each with the value it comes from. -/
  trails : List (Nat × Hop)
  /-- For every value, how many hops were forwarded for it. -/
  forwards : List Nat

namespace Ledger

/-- The account goes on with a move. The hop that is sent on belongs to the value of the hop that was
dispatched; a hop that no other one has sent on belongs to a new value. -/
def next (l : Ledger) (m : Move) : Ledger :=
  let g := l.gateway.move m
  match l.gateway.dispatched? m with
  | some j =>
    let value := (l.trails[j]?.map (·.1)).getD 0
    let left := l.trails.eraseIdx j
    { gateway := g
      trails := left ++ (g.hops.drop left.length).map fun hop => (value, hop)
      forwards := l.forwards.modify value (· + 1) }
  | none =>
    match g.hops.drop l.trails.length with
    | [] => { l with gateway := g }
    | hop :: _ =>
      { gateway := g
        trails := l.trails ++ [(l.forwards.length, hop)]
        forwards := l.forwards ++ [0] }

def run (config : ManagerConfig) (cache : ReplyCache) (moves : List Move) : Ledger :=
  moves.foldl next ⟨.new config cache, [], []⟩

/-! What the account says at all times -/

structure Balanced (l : Ledger) : Prop where
  orderly : l.gateway.traffic.Orderly
  answers : l.gateway.Answers
  hops : l.trails.map (·.2) = l.gateway.hops
  known : ∀ x ∈ l.trails, x.1 < l.forwards.length
  /-- A value has one hop under way at most. -/
  apart : (l.trails.map (·.1)).Nodup
  within : ∀ x ∈ l.trails, l.forwards.getD x.1 0 + x.2.remaining ≤ 6
  few : ∀ n ∈ l.forwards, n ≤ 6
  counted : l.forwards.sum = l.gateway.counters.forwarded

theorem sum_modify (ns : List Nat) {i : Nat} (bound : i < ns.length) :
    (ns.modify i (· + 1)).sum = ns.sum + 1 := by
  induction ns generalizing i with
  | nil => cases bound
  | cons n rest ih =>
    cases i with
    | zero => simp; omega
    | succ i =>
      have later := ih (Nat.lt_of_succ_lt_succ bound)
      simp only [List.modify_succ_cons, List.sum_cons, later]
      omega

theorem mem_modify {ns : List Nat} {i n : Nat} (member : n ∈ ns.modify i (· + 1)) :
    n ∈ ns ∨ i < ns.length ∧ n = ns.getD i 0 + 1 := by
  induction ns generalizing i with
  | nil => simp at member
  | cons m rest ih =>
    cases i with
    | zero =>
      simp only [List.modify_zero_cons, List.mem_cons] at member
      rcases member with rfl | later
      · exact Or.inr ⟨Nat.succ_pos _, rfl⟩
      · exact Or.inl (List.mem_cons_of_mem m later)
    | succ i =>
      simp only [List.modify_succ_cons, List.mem_cons] at member
      rcases member with rfl | later
      · exact Or.inl List.mem_cons_self
      · rcases ih later with old | ⟨bound, same⟩
        · exact Or.inl (List.mem_cons_of_mem m old)
        · exact Or.inr ⟨Nat.succ_lt_succ bound, same⟩

theorem getD_modify_eq {ns : List Nat} {i : Nat} (bound : i < ns.length) :
    (ns.modify i (· + 1)).getD i 0 = ns.getD i 0 + 1 := by
  rw [List.getD_eq_getElem?_getD, List.getElem?_modify_eq, List.getElem?_eq_getElem bound]
  simp [bound]

theorem getD_modify_ne (ns : List Nat) {i j : Nat} (other : i ≠ j) :
    (ns.modify i (· + 1)).getD j 0 = ns.getD j 0 := by
  rw [List.getD_eq_getElem?_getD, List.getElem?_modify_ne _ _ other, List.getD_eq_getElem?_getD]

theorem nodup_of_alone {α : Type} {xs : List α} (alone : xs.length ≤ 1) : xs.Nodup := by
  match xs, alone with
  | [], _ => exact List.nodup_nil
  | [x], _ => exact List.nodup_singleton x

theorem next_dispatched {l : Ledger} {m : Move} {before after : List (Nat × Hop)} {value : Nat}
    {hop : Hop} {made : List Hop} (place : l.gateway.dispatched? m = some before.length)
    (trails : l.trails = before ++ (value, hop) :: after)
    (moved : (l.gateway.move m).hops = (before ++ after).map (·.2) ++ made) :
    l.next m = ⟨l.gateway.move m, before ++ after ++ made.map fun hop => (value, hop),
      l.forwards.modify value (· + 1)⟩ := by
  have found : (l.trails[before.length]?.map (·.1)).getD 0 = value := by
    rw [trails, List.getElem?_append_right (Nat.le_refl _), Nat.sub_self]
    rfl
  have left : l.trails.eraseIdx before.length = before ++ after := by
    rw [trails, List.eraseIdx_append_of_length_le (Nat.le_refl _), Nat.sub_self]
    rfl
  have sent : (l.gateway.move m).hops.drop (before ++ after).length = made := by
    rw [moved]
    exact List.drop_left' (List.length_map _)
  unfold next
  rw [place]
  dsimp only
  rw [found, left, sent]

namespace Balanced

variable {l : Ledger}

theorem onward (balanced : Balanced l) {before after : List (Nat × Hop)} {value : Nat} {hop : Hop}
    (trails : l.trails = before ++ (value, hop) :: after) {g : Gateway} {made : List Hop}
    (orderly : g.traffic.Orderly) (answers : g.Answers)
    (hops : g.hops = (before ++ after).map (·.2) ++ made) (pos : 0 < hop.remaining)
    (alone : made.length ≤ 1) (nearer : ∀ out ∈ made, out.remaining < hop.remaining)
    (forwarded : g.counters.forwarded = l.gateway.counters.forwarded + 1) :
    Balanced ⟨g, before ++ after ++ made.map fun hop => (value, hop),
      l.forwards.modify value (· + 1)⟩ := by
  have member {x : Nat × Hop} (kept : x ∈ before ++ after) : x ∈ l.trails := by
    rw [trails]
    exact ((List.sublist_cons_self _ after).append_left before).subset kept
  have mine : (value, hop) ∈ l.trails := by
    rw [trails]
    exact List.mem_append_right before List.mem_cons_self
  have bound : value < l.forwards.length := balanced.known _ mine
  have room : l.forwards.getD value 0 + hop.remaining ≤ 6 := balanced.within _ mine
  -- A value has one hop only, so what is left of the trails is about other values.
  have unique : value ∉ (before ++ after).map (·.1) ∧ ((before ++ after).map (·.1)).Nodup := by
    have apart := balanced.apart
    rw [trails, List.map_append, List.map_cons, List.perm_middle.nodup_iff, ← List.map_append] at apart
    exact List.nodup_cons.mp apart
  constructor
  case orderly => exact orderly
  case answers => exact answers
  case hops => simp [hops]
  case known =>
    intro x kept
    rw [List.length_modify]
    rcases List.mem_append.mp kept with old | new
    · exact balanced.known x (member old)
    · obtain ⟨_, _, rfl⟩ := List.mem_map.mp new
      exact bound
  case apart =>
    rw [List.map_append, List.map_map]
    refine List.nodup_append.mpr ⟨unique.2, ?_, fun a old b new => ?_⟩
    · exact nodup_of_alone (by simpa using alone)
    · obtain ⟨_, _, rfl⟩ := List.mem_map.mp new
      rintro rfl
      exact unique.1 old
  case within =>
    intro x kept
    rcases List.mem_append.mp kept with old | new
    · have other : value ≠ x.1 := fun same => unique.1 (same ▸ List.mem_map_of_mem old)
      rw [getD_modify_ne _ other]
      exact balanced.within x (member old)
    · obtain ⟨out, sent, rfl⟩ := List.mem_map.mp new
      have less := nearer out sent
      rw [getD_modify_eq bound]
      dsimp only
      omega
  case few =>
    intro n counted
    rcases mem_modify counted with old | ⟨_, rfl⟩
    · exact balanced.few n old
    · omega
  case counted => rw [sum_modify _ bound, balanced.counted, forwarded]

theorem dispatch (balanced : Balanced l) {m : Move} (proper : m.Proper) {j : Nat}
    (place : l.gateway.dispatched? m = some j) : Balanced (l.next m) := by
  obtain ⟨before, hop, after, made, hops, rfl, pos, moved, alone, nearer, _, forwarded⟩ :=
    Gateway.move_dispatched balanced.orderly balanced.answers place
  -- The account has the hop at the same place.
  obtain ⟨front, rest, trails, rfl, back⟩ := List.map_eq_append_iff.mp (balanced.hops.trans hops)
  obtain ⟨⟨value, _⟩, left, rfl, rfl, rfl⟩ := List.map_eq_cons_iff.mp back
  rw [List.length_map] at place
  rw [← List.map_append] at moved
  rw [next_dispatched place trails moved]
  exact balanced.onward trails (balanced.orderly.step (l.gateway.step_move balanced.orderly m))
    (balanced.answers.move balanced.orderly proper) moved pos alone nearer forwarded

theorem still (balanced : Balanced l) {g : Gateway} (orderly : g.traffic.Orderly)
    (answers : g.Answers) (hops : g.hops = l.gateway.hops)
    (forwarded : g.counters.forwarded = l.gateway.counters.forwarded) :
    Balanced { l with gateway := g } where
  orderly := orderly
  answers := answers
  hops := balanced.hops.trans hops.symm
  known := balanced.known
  apart := balanced.apart
  within := balanced.within
  few := balanced.few
  counted := balanced.counted.trans forwarded.symm

theorem enter (balanced : Balanced l) {g : Gateway} (orderly : g.traffic.Orderly)
    (answers : g.Answers) {hop : Hop} (hops : g.hops = l.gateway.hops ++ [hop])
    (forwarded : g.counters.forwarded = l.gateway.counters.forwarded) :
    Balanced ⟨g, l.trails ++ [(l.forwards.length, hop)], l.forwards ++ [0]⟩ where
  orderly := orderly
  answers := answers
  hops := by
    rw [List.map_append, balanced.hops]
    exact hops.symm
  known x kept := by
    rw [List.length_append, List.length_singleton]
    rcases List.mem_append.mp kept with before | new
    · exact Nat.lt_succ_of_lt (balanced.known x before)
    · rw [List.mem_singleton.mp new]
      exact Nat.lt_succ_self _
  apart := by
    rw [List.map_append]
    refine List.nodup_append.mpr ⟨balanced.apart, List.nodup_singleton _, fun a before b new => ?_⟩
    obtain ⟨x, kept, rfl⟩ := List.mem_map.mp before
    rw [List.mem_singleton.mp new]
    exact Nat.ne_of_lt (balanced.known x kept)
  within x kept := by
    rcases List.mem_append.mp kept with before | new
    · change (l.forwards ++ [0]).getD x.1 0 + _ ≤ 6
      rw [List.getD_append _ _ _ _ (balanced.known x before)]
      exact balanced.within x before
    · rw [List.mem_singleton.mp new]
      have most := hop.remaining_le
      simp
      omega
  few n counted := by
    rcases List.mem_append.mp counted with before | new
    · exact balanced.few n before
    · rw [List.mem_singleton.mp new]
      exact Nat.zero_le 6
  counted := by
    rw [List.sum_append, balanced.counted]
    exact forwarded.symm

theorem other (balanced : Balanced l) {m : Move} (proper : m.Proper)
    (silent : l.gateway.dispatched? m = none) : Balanced (l.next m) := by
  obtain ⟨made, adds, forwarded⟩ := Gateway.move_other silent
  have hops := adds.hops
  have alone := adds.alone
  have length : l.trails.length = l.gateway.hops.length := by
    rw [← balanced.hops, List.length_map]
  have fresh : (l.gateway.move m).hops.drop l.trails.length = made := by
    rw [hops, length, List.drop_left]
  have orderly := balanced.orderly.step (l.gateway.step_move balanced.orderly m)
  have answers := balanced.answers.move balanced.orderly proper
  unfold Ledger.next
  rw [silent]
  dsimp only
  rw [fresh]
  cases made with
  | nil => exact balanced.still orderly answers (by rw [hops, List.append_nil]) forwarded
  | cons hop rest =>
    have none : rest = [] := List.length_eq_zero_iff.mp (Nat.le_zero.mp (Nat.le_of_succ_le_succ alone))
    subst none
    exact balanced.enter orderly answers hops forwarded

theorem step (balanced : Balanced l) {m : Move} (proper : m.Proper) : Balanced (l.next m) := by
  cases place : l.gateway.dispatched? m with
  | some j => exact balanced.dispatch proper place
  | none => exact balanced.other proper place

theorem run (config : ManagerConfig) (cache : ReplyCache) (moves : List Move)
    (proper : ∀ m ∈ moves, m.Proper) : Balanced (Ledger.run config cache moves) := by
  induction moves using List.reverseRecOn with
  | nil =>
    exact ⟨History.orderly_new config cache, Gateway.answers_new config cache, rfl,
      fun _ member => (nomatch member), List.nodup_nil, fun _ member => (nomatch member),
      fun _ member => (nomatch member), rfl⟩
  | append_singleton moves m ih =>
    have before := ih fun m' member => proper m' (List.mem_append_left _ member)
    unfold Ledger.run
    rw [List.foldl_append]
    exact before.step (proper m (by simp))

end Balanced

theorem gateway_run (config : ManagerConfig) (cache : ReplyCache) (moves : List Move) :
    (run config cache moves).gateway = moves.foldl Gateway.move (.new config cache) := by
  have step (l : Ledger) (m : Move) : (l.next m).gateway = l.gateway.move m := by
    unfold next
    dsimp only
    split
    · rfl
    · split <;> rfl
  induction moves using List.reverseRecOn with
  | nil => rfl
  | append_singleton moves m ih =>
    unfold run at ih ⊢
    rw [List.foldl_append, List.foldl_append, List.foldl_cons, List.foldl_nil, step, ih]
    rfl

/-- The account does not lose the hop that is dispatched: it is let pass, and its stage reports no
fault but an answer that has nowhere to go. -/
theorem Balanced.passes {l : Ledger} (balanced : Balanced l) {i : Nat} {hop : Hop}
    (found : l.gateway.tasks[i]? = some (.forward hop)) :
    let rest : Gateway := { l.gateway with tasks := l.gateway.tasks.eraseIdx i }
    ∃ e, rest.checkHop hop = .ok e ∧
      ∀ cause, (rest.countForwarded.receiveAt hop e).2 = .error (.fault cause) →
        hop.source = .manager ∧ hop.target = .interconnection ∧ cause.Undeliverable := by
  intro rest
  have member := List.mem_of_getElem? found
  have lawful : Lawful l.gateway.keys hop :=
    balanced.orderly.lawful hop (List.mem_filterMap.mpr ⟨_, member, rfl⟩)
  obtain ⟨g', r, received, receives⟩ := Gateway.receives_lawful rest.countForwarded
    balanced.orderly.token balanced.orderly.keyed lawful (balanced.answers.tasks _ member)
  refine ⟨_, Gateway.checkHop_lawful rest lawful, fun cause failed => ?_⟩
  rw [received] at failed
  exact receives.fault cause failed

theorem Balanced.keeps {l : Ledger} (balanced : Balanced l) (running : l.gateway.phase = .running)
    (i : Nat) : (l.gateway.runTask i).counters.dropped = l.gateway.counters.dropped := by
  change (l.gateway.move (.event (.run i))).counters.dropped = _
  cases place : l.gateway.dispatched? (.event (.run i)) with
  | some j =>
    obtain ⟨_, _, _, _, _, _, _, _, _, _, dropped, _⟩ :=
      Gateway.move_dispatched balanced.orderly balanced.answers place
    exact dropped running
  | none =>
    obtain ⟨_, adds, _⟩ := Gateway.move_other place
    exact adds.dropped running

end Ledger

/-- However plugins, callers and tasks take turns, as long as plugins answer with replies and errors:
every hop under way is let pass; no stage reports a fault but for an answer that names no resource or
has nobody to go to; a running gateway drops nothing; and of all that is forwarded, no value that a
plugin has handed in causes more than six. -/
theorem values_forwarded_within_six (config : ManagerConfig) (cache : ReplyCache) (moves : List Move)
    (proper : ∀ m ∈ moves, m.Proper) :
    let l := Ledger.run config cache moves
    l.gateway = moves.foldl Gateway.move (.new config cache) ∧
    (∀ i hop, l.gateway.tasks[i]? = some (.forward hop) →
      let rest : Gateway := { l.gateway with tasks := l.gateway.tasks.eraseIdx i }
      ∃ e, rest.checkHop hop = .ok e ∧
        ∀ cause, (rest.countForwarded.receiveAt hop e).2 = .error (.fault cause) →
          hop.source = .manager ∧ hop.target = .interconnection ∧ cause.Undeliverable) ∧
    (l.gateway.phase = .running →
      ∀ i, (l.gateway.runTask i).counters.dropped = l.gateway.counters.dropped) ∧
    (∀ n ∈ l.forwards, n ≤ 6) ∧
    l.trails.map (·.2) = l.gateway.hops ∧ (∀ x ∈ l.trails, x.1 < l.forwards.length) ∧
    l.forwards.sum = l.gateway.counters.forwarded := by
  intro l
  have balanced := Ledger.Balanced.run config cache moves proper
  exact ⟨Ledger.gateway_run config cache moves, fun i hop found => balanced.passes found,
    balanced.keeps, balanced.few, balanced.hops, balanced.known, balanced.counted⟩

def readNowhere : List Move :=
  [.register (.origin (.new (.of "app"))), .start,
    .event (.submit (.of "app") (.new .read "/coap/dev/temp"))] ++
    List.replicate 7 (.event (.run 0))

theorem read_nowhere_within_six :
    (Ledger.run .standard .off readNowhere).forwards = [6] ∧
      (Ledger.run .standard .off readNowhere).gateway.counters = ⟨6, 0, 0, 0⟩ ∧
      ∀ n ∈ (Ledger.run .standard .off readNowhere).forwards, n ≤ 6 := by
  have proper : ∀ m ∈ readNowhere, m.Proper := by
    intro m member
    simp only [readNowhere, List.mem_append, List.mem_cons, List.not_mem_nil, or_false,
      List.mem_replicate] at member
    rcases member with (rfl | rfl | rfl) | ⟨_, rfl⟩ <;> trivial
  obtain ⟨_, _, _, few, _⟩ := values_forwarded_within_six .standard .off readNowhere proper
  exact ⟨by decide +kernel, by decide +kernel, few⟩

end ProtocolGateway
