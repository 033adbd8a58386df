import Mathlib
import ProtocolGateway.Proofs.Gateway.Order
import ProtocolGateway.Proofs.Routing.Numbering

/-!
The numbers that requests get. Until a range is used up its numbers rise, so none comes round.
-/

namespace ProtocolGateway

/-! Numbers in the log -/

def Note.draws (observes : Bool) : Note → Bool
  | .drew s => s.isObserve == observes
  | _ => false

def drawn (observes : Bool) (log : List Note) : Nat := log.countP (Note.draws observes)

theorem drawn_append (observes : Bool) (log notes : List Note) :
    drawn observes (log ++ notes) = drawn observes log + drawn observes notes :=
  List.countP_append

theorem drawn_silent {notes : List Note} (silent : ∀ s, .drew s ∉ notes) (observes : Bool) :
    drawn observes notes = 0 := by
  apply List.countP_eq_zero.mpr
  intro n member
  cases n with
  | drew s => exact absurd member (silent s)
  | accepted | cameRound | crossed | brokeOff | missed => simp [Note.draws]

theorem drawn_drew {notes : List Note} (silent : ∀ s, .drew s ∉ notes) (s : Sequence)
    (observes : Bool) : drawn observes (.drew s :: notes) = if observes = s.isObserve then 1 else 0 := by
  have tail := drawn_silent silent observes
  unfold drawn at tail ⊢
  rw [List.countP_cons, tail]
  simp only [Note.draws, Nat.zero_add, beq_iff_eq, eq_comm (a := observes)]

theorem Sequencer.isObserve_next {q : Sequencer}
    (ranges : ∀ observes, (q.upcoming observes).isObserve = observes) (o : Operation) :
    (q.next o).1.isObserve = o.isObserveFamily := by
  rw [(q.next_eq o).1]
  exact ranges _

namespace Traffic

theorem mem_missed {t : Traffic} {m : Message} {xs : List (ProtocolName × Sequence)} {n : Note}
    (member : n ∈ t.missed m xs) : ∃ p s, n = .missed p s := by
  induction xs generalizing t with
  | nil => cases member
  | cons x rest ih =>
    rcases List.mem_append.mp member with head | tail
    · split at head
      · exact ⟨x.1, x.2, List.mem_singleton.mp head⟩
      · cases head
    · exact ih tail

end Traffic

theorem mem_breakNotes {r : StageResult} {n : Note} (member : n ∈ Gateway.breakNotes r) :
    n = .brokeOff := by
  unfold Gateway.breakNotes at member
  split at member
  · exact List.mem_singleton.mp member
  · cases member

theorem Traffic.Step.numbers {t t' : Traffic} {notes : List Note} (step : Step t notes t') :
    (t'.sequencer = t.sequencer ∧ ∀ s, .drew s ∉ notes) ∨
    ∃ r rest, notes = .drew (t.draw r).1 :: rest ∧ (∀ s, .drew s ∉ rest) ∧
      t'.sequencer = (t.draw r).2 := by
  cases step with
  | quiet | abandoned | entered | arrived | admitted | delivered | released | started | stopped
  | gone => exact Or.inl ⟨rfl, fun s member => nomatch member⟩
  | drawn r running => exact Or.inr ⟨r, [], rfl, fun s member => (nomatch member), rfl⟩
  | refused p r running =>
    refine Or.inr ⟨r, _, rfl, fun s member => ?_, rfl⟩
    cases (mem_round member).1
  | accepted a running number nonzero new =>
    refine Or.inr ⟨a.request, _, by rw [number]; rfl, fun s member => ?_, rfl⟩
    rcases List.mem_append.mp member with round | last
    · cases (mem_round round).1
    · cases List.mem_singleton.mp last
  | taken => exact Or.inl ⟨rfl, fun s member => by cases List.mem_singleton.mp member⟩
  | heard before after m p ic result split hears =>
    refine Or.inl ⟨rfl, fun s member => ?_⟩
    rcases List.mem_cons.mp member with crossed | broken
    · cases crossed
    · cases mem_breakNotes broken
  | resolved before after m p l hops split answer =>
    refine Or.inl ⟨(beside_resolveAll _ m (receipts l)).sequencer, fun s member => ?_⟩
    obtain ⟨_, _, same⟩ := mem_missed member
    cases same

/-! Rising numbers -/

/-- In each range, as long as it is not used up, the numbers are given out in their order. -/
structure Numbered (t : Traffic) (log : List Note) : Prop where
  ranges : ∀ observes, (t.sequencer.upcoming observes).isObserve = observes
  counted : ∀ observes, drawn observes log < 0x7FFFFFFF →
    (t.sequencer.upcoming observes).toNat = Sequencer.start observes + drawn observes log
  earlier : ∀ observes s, drawn observes log < 0x7FFFFFFF → .drew s ∈ log →
    s.isObserve = observes → s.toNat < Sequencer.start observes + drawn observes log

theorem numbered_new (config : ManagerConfig) (cache : ReplyCache) :
    Numbered (Gateway.new config cache).traffic [] where
  ranges observes := by cases observes <;> rfl
  counted observes _ := by cases observes <;> rfl
  earlier _ _ _ member := nomatch member

namespace Numbered

variable {t t' : Traffic} {log notes : List Note}

theorem quiet (numbered : Numbered t log) (same : t'.sequencer = t.sequencer)
    (silent : ∀ s, .drew s ∉ notes) : Numbered t' (log ++ notes) := by
  have still (observes : Bool) : drawn observes (log ++ notes) = drawn observes log := by
    rw [drawn_append, drawn_silent silent, Nat.add_zero]
  constructor
  case ranges =>
    rw [same]
    exact numbered.ranges
  case counted =>
    intro observes
    rw [same, still]
    exact numbered.counted observes
  case earlier =>
    intro observes s few member
    rw [still] at few ⊢
    rcases List.mem_append.mp member with old | new
    · exact numbered.earlier observes s few old
    · exact absurd new (silent s)

theorem range_draw (numbered : Numbered t log) (r : Request) :
    (t.draw r).1.isObserve = r.headers.operation.isObserveFamily :=
  Sequencer.isObserve_next numbered.ranges r.headers.operation

theorem drawn_draw (numbered : Numbered t log) (r : Request) (silent : ∀ s, .drew s ∉ notes)
    (observes : Bool) : drawn observes (log ++ .drew (t.draw r).1 :: notes) =
      drawn observes log + if observes = r.headers.operation.isObserveFamily then 1 else 0 := by
  rw [drawn_append, drawn_drew silent, numbered.range_draw]

theorem draw (numbered : Numbered t log) (r : Request) (advanced : t'.sequencer = (t.draw r).2)
    (silent : ∀ s, .drew s ∉ notes) : Numbered t' (log ++ .drew (t.draw r).1 :: notes) := by
  obtain ⟨number, next⟩ := t.sequencer.next_eq r.headers.operation
  change (t.draw r).1 = _ at number
  change ∀ observes, (t.draw r).2.upcoming observes = _ at next
  have more := numbered.drawn_draw r silent
  constructor
  case ranges =>
    intro observes
    rw [advanced, next]
    split
    · exact Sequencer.isObserve_advance (numbered.ranges observes)
    · exact numbered.ranges observes
  case counted =>
    intro observes few
    rw [more] at few ⊢
    rw [advanced, next]
    by_cases here : observes = r.headers.operation.isObserveFamily
    · simp only [here, ↓reduceIte] at few ⊢
      have counted := numbered.counted r.headers.operation.isObserveFamily (by omega)
      rw [Sequencer.toNat_advance_early (by omega)]
      omega
    · simp only [here, ↓reduceIte] at few ⊢
      exact numbered.counted observes few
  case earlier =>
    intro observes s few member family
    rw [more] at few ⊢
    have before : drawn observes log < 0x7FFFFFFF := by omega
    rcases List.mem_append.mp member with old | new
    · have := numbered.earlier observes s before old family
      omega
    · rcases List.mem_cons.mp new with last | later
      · cases last
        have counted := numbered.counted observes before
        have here : observes = r.headers.operation.isObserveFamily :=
          family.symm.trans (numbered.range_draw r)
        rw [number, ← here, if_pos rfl]
        omega
      · exact absurd later (silent s)

theorem step (numbered : Numbered t log) (step : t.Step notes t') : Numbered t' (log ++ notes) := by
  rcases step.numbers with ⟨same, silent⟩ | ⟨r, rest, rfl, silent, advanced⟩
  · exact numbered.quiet same silent
  · exact numbered.draw r advanced silent

end Numbered

/-! Submissions -/

theorem drawn_taskNotes (g : Gateway) (t : Task) (observes : Bool) :
    drawn observes (g.taskNotes t) = 0 := by
  apply drawn_silent
  intro s member
  unfold Gateway.taskNotes at member
  split at member
  · split at member
    · unfold Gateway.hopNotes at member
      split at member
      · rw [Gateway.missed_eq] at member
        obtain ⟨_, _, same⟩ := Traffic.mem_missed member
        cases same
      · rcases List.mem_append.mp member with crossed | broken
        · split at crossed
          · cases List.mem_singleton.mp crossed
          · cases crossed
        · cases mem_breakNotes broken
      · cases member
    · cases member
  · cases member
  · cases member

theorem drawn_submitNotes (g : Gateway)
    (ranges : ∀ observes, (g.sequencer.upcoming observes).isObserve = observes) (p : ProtocolName)
    (r : Request) (observes : Bool) :
    drawn observes (g.submitNotes p r) ≤
      if r.headers.operation.isObserveFamily = observes then 1 else 0 := by
  have one (rest : List Note) (silent : ∀ s, .drew s ∉ rest) :
      drawn observes (.drew (g.sequencer.next r.headers.operation).1 :: rest) =
        if r.headers.operation.isObserveFamily = observes then 1 else 0 := by
    rw [drawn_drew silent, Sequencer.isObserve_next ranges]
    simp only [eq_comm]
  unfold Gateway.submitNotes
  dsimp only
  split
  · exact Nat.zero_le _
  · exact (one [] fun s member => nomatch member).le
  · refine (one _ fun s member => ?_).le
    rcases List.mem_append.mp member with round | last
    · split at round
      · cases List.mem_singleton.mp round
      · cases round
    · split at last
      · cases List.mem_singleton.mp last
      · cases last

theorem drawn_notes (g : Gateway)
    (ranges : ∀ observes, (g.sequencer.upcoming observes).isObserve = observes) (m : Move)
    (observes : Bool) : drawn observes (g.notes m) ≤ submissions observes [m] := by
  cases m with
  | register | start | stop | letGo | become => exact Nat.zero_le _
  | event e =>
    cases e with
    | submit p r =>
      have one : submissions observes [.event (.submit p r)] =
          if r.headers.operation.isObserveFamily = observes then 1 else 0 := by
        simp [submissions, List.countP_cons]
      rw [one]
      exact drawn_submitNotes g ranges p r observes
    | run i =>
      rw [Gateway.notes_run]
      cases g.tasks[i]? with
      | none => exact Nat.zero_le _
      | some t =>
        rw [Option.elim_some, drawn_taskNotes]
        exact Nat.zero_le _
    | reply | notify | abandon | pass => exact Nat.zero_le _

theorem drawn_le_submissions (config : ManagerConfig) (cache : ReplyCache) (observes : Bool)
    (moves : List Move) :
    drawn observes (History.run config cache moves).log ≤ submissions observes moves := by
  induction moves using List.reverseRecOn with
  | nil => exact Nat.le_refl 0
  | append_singleton moves m ih =>
    have numbered := (History.holds (numbered_new config cache)
      (fun _ _ _ _ _ before step => before.step step) moves).2
    have last := drawn_notes (History.run config cache moves).gateway numbered.ranges m observes
    have more : submissions observes (moves ++ [m]) =
        submissions observes moves + submissions observes [m] := List.countP_append
    rw [History.run_append]
    change drawn observes (_ ++ (History.run config cache moves).gateway.notes m) ≤ _
    rw [drawn_append, more]
    omega

end ProtocolGateway
