import Mathlib
import ProtocolGateway.Routing.Sequencer

/-!
The numbers of both ranges. However the calls for them are interleaved, a range gives its numbers out in
their order and all of them before one comes again, and no number belongs to both ranges.
-/

namespace ProtocolGateway

/-! Successors -/

namespace Sequence

theorem toNat_following (start last s : Sequence) :
    (following start last s).toNat = if last.toNat ≤ s.toNat then start.toNat else s.toNat + 1 := by
  have bound := last.toNat_lt
  by_cases wraps : last.toNat ≤ s.toNat
  · simp [following, UInt32.le_iff_toNat_le, wraps]
  · have sum : (s + 1).toNat = s.toNat + 1 := by
      rw [UInt32.toNat_add]
      simp
      omega
    simp [following, UInt32.le_iff_toNat_le, wraps, sum]

theorem isObserve_iff (s : Sequence) : s.isObserve = true ↔ 0x80000000 ≤ s.toNat := by
  simp [isObserve, observeStart, UInt32.le_iff_toNat_le]

theorem isNormal_iff (s : Sequence) : s.isNormal = true ↔ 1 ≤ s.toNat ∧ s.toNat ≤ 0x7FFFFFFF := by
  simp [isNormal, normalStart, normalEnd, UInt32.le_iff_toNat_le]

/-- The successor as it is found by an addition that fails past the last word. -/
def following? (start last s : Sequence) : Option Sequence :=
  if s ≥ last then some start
  else if s.toNat + 1 < UInt32.size then some (s + 1)
  else none

theorem following?_eq (start last s : Sequence) :
    following? start last s = some (following start last s) := by
  have bound := last.toNat_lt
  by_cases wraps : s ≥ last
  · simp [following?, following, wraps]
  · have early : s.toNat < last.toNat := by
      simpa [UInt32.le_iff_toNat_le] using wraps
    have room : s.toNat + 1 < UInt32.size := by
      simp only [UInt32.size]
      omega
    simp [following?, following, wraps, room]

end Sequence

namespace Sequencer

def upcoming (q : Sequencer) (observes : Bool) : Sequence :=
  if observes then q.observe else q.normal

def start (observes : Bool) : Nat := if observes then 0x80000000 else 1

def width (observes : Bool) : Nat := if observes then 0x80000000 else 0x7FFFFFFF

def advance (observes : Bool) (s : Sequence) : Sequence :=
  if observes then Sequence.following Sequence.observeStart Sequence.observeEnd s
  else Sequence.following Sequence.normalStart Sequence.normalEnd s

theorem next_eq (q : Sequencer) (o : Operation) :
    (q.next o).1 = q.upcoming o.isObserveFamily ∧
      ∀ observes, (q.next o).2.upcoming observes =
        if observes = o.isObserveFamily then advance observes (q.upcoming observes)
        else q.upcoming observes := by
  unfold next
  cases o.isObserveFamily with
  | false => exact ⟨rfl, fun observes => by cases observes <;> rfl⟩
  | true => exact ⟨rfl, fun observes => by cases observes <;> rfl⟩

theorem toNat_advance (observes : Bool) (s : Sequence) :
    (advance observes s).toNat =
      if start observes + width observes ≤ s.toNat + 1 then start observes else s.toNat + 1 := by
  cases observes with
  | true =>
    simp [advance, start, width, Sequence.toNat_following, Sequence.observeStart, Sequence.observeEnd]
  | false =>
    simp [advance, start, width, Sequence.toNat_following, Sequence.normalStart, Sequence.normalEnd]

theorem toNat_advance_early {observes : Bool} {s : Sequence}
    (early : s.toNat < start observes + 0x7FFFFFFE) : (advance observes s).toNat = s.toNat + 1 := by
  rw [toNat_advance]
  cases observes with
  | true =>
    simp only [start, width, ↓reduceIte] at early ⊢
    exact if_neg (by omega)
  | false =>
    simp only [start, width, Bool.false_eq_true, ↓reduceIte] at early ⊢
    exact if_neg (by omega)

theorem isObserve_advance {observes : Bool} {s : Sequence} (range : s.isObserve = observes) :
    (advance observes s).isObserve = observes := by
  have bound := s.toNat_lt
  cases observes with
  | true =>
    rw [Sequence.isObserve_iff, toNat_advance] at *
    simp only [start, width, ↓reduceIte]
    split <;> omega
  | false =>
    rw [Bool.eq_false_iff, ne_eq, Sequence.isObserve_iff] at *
    rw [toNat_advance]
    simp only [start, width, Bool.false_eq_true, ↓reduceIte]
    split <;> omega

theorem advance_ne_zero (observes : Bool) (s : Sequence) : advance observes s ≠ 0 := by
  intro zero
  have number := toNat_advance observes s
  rw [zero] at number
  split at number
  · cases observes <;> simp [start] at number
  · simp at number

/-! Going round -/

def Within (observes : Bool) (s : Sequence) : Prop :=
  start observes ≤ s.toNat ∧ s.toNat < start observes + width observes

/-- The number that comes the given count of calls after the first one. -/
def numberAfter (observes : Bool) (first k : Nat) : Nat :=
  start observes + (first - start observes + k) % width observes

theorem width_pos (observes : Bool) : 0 < width observes := by
  cases observes <;> decide

theorem Within.classified {observes : Bool} {s : Sequence} (within : Within observes s) :
    s ≠ 0 ∧ s.isObserve = observes ∧ s.isNormal = !observes := by
  obtain ⟨low, high⟩ := within
  have nonzero : s ≠ 0 := by
    rintro rfl
    cases observes <;> simp [start] at low
  refine ⟨nonzero, ?_⟩
  cases observes with
  | true =>
    simp only [start, ↓reduceIte] at low
    constructor
    · exact (Sequence.isObserve_iff s).mpr low
    · simp only [Bool.not_true, Bool.eq_false_iff, ne_eq, Sequence.isNormal_iff]
      omega
  | false =>
    simp only [start, width, Bool.false_eq_true, ↓reduceIte] at low high
    constructor
    · simp only [Bool.eq_false_iff, ne_eq, Sequence.isObserve_iff]
      omega
    · exact (Sequence.isNormal_iff s).mpr ⟨low, by omega⟩

theorem Within.advance {observes : Bool} {s : Sequence} (within : Within observes s) :
    Within observes (advance observes s) := by
  obtain ⟨low, high⟩ := within
  have room := width_pos observes
  constructor
  · rw [toNat_advance]
    split <;> omega
  · rw [toNat_advance]
    split <;> omega

theorem Within.numberAfter_zero {observes : Bool} {s : Sequence} (within : Within observes s) :
    numberAfter observes s.toNat 0 = s.toNat := by
  obtain ⟨low, high⟩ := within
  rw [numberAfter, Nat.add_zero, Nat.mod_eq_of_lt (by omega)]
  omega

theorem Within.numberAfter_succ {observes : Bool} {s : Sequence} (within : Within observes s)
    (k : Nat) :
    numberAfter observes s.toNat (k + 1) =
      numberAfter observes (Sequencer.advance observes s).toNat k := by
  obtain ⟨low, high⟩ := within
  rw [toNat_advance]
  by_cases last : start observes + width observes ≤ s.toNat + 1
  · have whole : s.toNat - start observes + (k + 1) = width observes + k := by omega
    simp [numberAfter, last, whole]
  · have later : s.toNat - start observes + (k + 1) = s.toNat + 1 - start observes + k := by omega
    simp [numberAfter, last, later]

theorem numberAfter_inj {observes : Bool} {first i j k : Nat} (low : k ≤ i) (le : i ≤ j)
    (near : j < k + width observes)
    (same : numberAfter observes first i = numberAfter observes first j) : i = j := by
  have congruent : (first - start observes + i) % width observes =
      (first - start observes + j) % width observes := Nat.add_left_cancel same
  have divides : width observes ∣ j - i := by
    have difference := (Nat.modEq_iff_dvd' (by omega)).mp congruent
    rwa [Nat.add_sub_add_left] at difference
  -- Less than a whole round apart, the two counts can only agree by being one.
  by_contra different
  have multiple := Nat.le_of_dvd (by omega) divides
  omega

/-! Interleaved calls -/

/-- One call for a number. The counter is read and moved on at once, so the calls of all callers come
one after the other. -/
def call (q : Sequencer) (observes : Bool) : Sequence × Sequencer :=
  if observes then q.nextObserve else q.nextNormal

def issued (q : Sequencer) : List Bool → List (Bool × Sequence)
  | [] => []
  | observes :: rest => (observes, (q.call observes).1) :: issued (q.call observes).2 rest

def issuedIn (q : Sequencer) (observes : Bool) (calls : List Bool) : List Sequence :=
  ((q.issued calls).filter fun entry => entry.1 = observes).map (·.2)

/-- One call on counters that are moved on by an addition that fails past the last word. -/
def call? (q : Sequencer) (observes : Bool) : Option (Sequence × Sequencer) :=
  if observes then
    (Sequence.following? Sequence.observeStart Sequence.observeEnd q.observe).map fun s =>
      (q.observe, { q with observe := s })
  else
    (Sequence.following? Sequence.normalStart Sequence.normalEnd q.normal).map fun s =>
      (q.normal, { q with normal := s })

def issued? (q : Sequencer) : List Bool → Option (List (Bool × Sequence))
  | [] => some []
  | observes :: rest =>
    (q.call? observes).bind fun (s, q) => (issued? q rest).map ((observes, s) :: ·)

theorem call_eq (q : Sequencer) (observes : Bool) :
    (q.call observes).1 = q.upcoming observes ∧
      ∀ other, (q.call observes).2.upcoming other =
        if other = observes then advance other (q.upcoming other) else q.upcoming other := by
  cases observes with
  | false => exact ⟨rfl, fun other => by cases other <;> rfl⟩
  | true => exact ⟨rfl, fun other => by cases other <;> rfl⟩

theorem call?_eq (q : Sequencer) (observes : Bool) : q.call? observes = some (q.call observes) := by
  cases observes with
  | false => simp [call?, call, nextNormal, Sequence.following?_eq]
  | true => simp [call?, call, nextObserve, Sequence.following?_eq]

theorem issued?_eq (q : Sequencer) (calls : List Bool) : q.issued? calls = some (q.issued calls) := by
  induction calls generalizing q with
  | nil => rfl
  | cons observes rest ih => simp [issued?, issued, call?_eq, ih]

def Sound (q : Sequencer) : Prop := ∀ observes, Within observes (q.upcoming observes)

theorem Sound.call {q : Sequencer} (sound : q.Sound) (observes : Bool) :
    (q.call observes).2.Sound := by
  intro other
  rw [(call_eq q observes).2 other]
  split
  · exact (sound other).advance
  · exact sound other

theorem Sound.within {q : Sequencer} (sound : q.Sound) {calls : List Bool} {observes : Bool}
    {s : Sequence} (member : (observes, s) ∈ q.issued calls) : Within observes s := by
  induction calls generalizing q with
  | nil => cases member
  | cons first rest ih =>
    rcases List.mem_cons.mp member with here | later
    · cases here
      rw [(call_eq q observes).1]
      exact sound observes
    · exact ih (sound.call first) later

theorem issuedIn_cons (q : Sequencer) (observes first : Bool) (rest : List Bool) :
    q.issuedIn observes (first :: rest) =
      if first = observes then q.upcoming observes :: (q.call first).2.issuedIn observes rest
      else (q.call first).2.issuedIn observes rest := by
  by_cases same : first = observes
  · subst same
    simp [issuedIn, issued, (call_eq q first).1]
  · simp [issuedIn, issued, same]

/-- A range gives its numbers out in a circle, whatever is called on the other range in between. -/
theorem Sound.issuedIn_eq {q : Sequencer} (sound : q.Sound) (observes : Bool) (calls : List Bool) :
    (q.issuedIn observes calls).map UInt32.toNat =
      (List.range (calls.count observes)).map
        (numberAfter observes (q.upcoming observes).toNat) := by
  induction calls generalizing q with
  | nil => rfl
  | cons first rest ih =>
    -- The counter of a range moves only with the calls on that range, and then one place on the circle.
    have tail := ih (sound.call first)
    rw [(call_eq q first).2] at tail
    by_cases same : first = observes
    · subst same
      rw [if_pos rfl] at tail
      have shifted : (List.range (rest.count first)).map
          (numberAfter first (Sequencer.advance first (q.upcoming first)).toNat) =
          (List.range (rest.count first)).map
            (numberAfter first (q.upcoming first).toNat ∘ Nat.succ) := by
        apply List.map_congr_left
        intro k _
        exact ((sound first).numberAfter_succ k).symm
      rw [issuedIn_cons, if_pos rfl, List.map_cons, tail, shifted, List.count_cons_self,
        List.range_succ_eq_map, List.map_cons, (sound first).numberAfter_zero, List.map_map]
    · rw [if_neg (Ne.symm same)] at tail
      rw [issuedIn_cons, if_neg same, tail, List.count_cons_of_ne same]

theorem Sound.nodup_window {q : Sequencer} (sound : q.Sound) (observes : Bool) (calls : List Bool)
    (k : Nat) : (((q.issuedIn observes calls).drop k).take (width observes)).Nodup := by
  apply List.Nodup.of_map UInt32.toNat
  rw [List.map_take, List.map_drop, sound.issuedIn_eq, ← List.map_drop, ← List.map_take,
    List.range_eq_range', List.drop_range']
  have position {i : Nat} (member : i ∈ (List.range' (0 + k * 1) (calls.count observes - k)).take
      (width observes)) : k ≤ i ∧ i < k + width observes := by
    obtain ⟨j, bound, rfl⟩ := List.mem_take_iff_getElem.mp member
    rw [List.getElem_range']
    omega
  apply List.Nodup.map_on
  · intro i first j second same
    have near := position first
    have near' := position second
    rcases Nat.le_total i j with le | ge
    · exact numberAfter_inj near.1 le near'.2 same
    · exact (numberAfter_inj near'.1 ge near.2 same.symm).symm
  · exact List.Nodup.sublist (List.take_sublist _ _) List.nodup_range'

/-! From any start -/

theorem sound_startingAt (n o : Sequence) : (startingAt n o).Sound := by
  intro observes
  cases observes with
  | true =>
    have bound := o.toNat_lt
    by_cases observe : o.isObserve = true
    · have low := (Sequence.isObserve_iff o).mp observe
      simp [Within, upcoming, startingAt, start, width, observe]
      omega
    · simp [Within, upcoming, startingAt, start, width, observe, Sequence.observeStart]
  | false =>
    by_cases normal : n.isNormal = true
    · have range := (Sequence.isNormal_iff n).mp normal
      simp [Within, upcoming, startingAt, start, width, normal]
      omega
    · simp [Within, upcoming, startingAt, start, width, normal, Sequence.normalStart]

theorem toNat_normal_startingAt (n o : Sequence) :
    (startingAt n o).normal.toNat = if 1 ≤ n.toNat ∧ n.toNat ≤ 0x7FFFFFFF then n.toNat else 1 := by
  by_cases normal : n.isNormal = true
  · simp [startingAt, normal, (Sequence.isNormal_iff n).mp normal]
  · have outside := mt (Sequence.isNormal_iff n).mpr normal
    simp [startingAt, normal, outside, Sequence.normalStart]

theorem toNat_observe_startingAt (n o : Sequence) :
    (startingAt n o).observe.toNat = if 0x80000000 ≤ o.toNat then o.toNat else 0x80000000 := by
  by_cases observe : o.isObserve = true
  · simp [startingAt, observe, (Sequence.isObserve_iff o).mp observe]
  · have outside := mt (Sequence.isObserve_iff o).mpr observe
    simp [startingAt, observe, outside, Sequence.observeStart]

/-- Whatever the start and the order of the calls, each range gives its numbers out in a circle from
its own start on, so that as many calls in a row as it has numbers bring no number twice. Every number
belongs to the range that was called on, none is zero, and no addition overflows. -/
theorem numbers_go_round (n o : Sequence) (calls : List Bool) :
    let q := startingAt n o
    let firstNormal := if 1 ≤ n.toNat ∧ n.toNat ≤ 0x7FFFFFFF then n.toNat else 1
    let firstObserve := if 0x80000000 ≤ o.toNat then o.toNat else 0x80000000
    ((q.issuedIn false calls).map UInt32.toNat =
      (List.range (calls.count false)).map fun k => 1 + (firstNormal - 1 + k) % 0x7FFFFFFF) ∧
    ((q.issuedIn true calls).map UInt32.toNat =
      (List.range (calls.count true)).map fun k =>
        0x80000000 + (firstObserve - 0x80000000 + k) % 0x80000000) ∧
    (∀ observes s, (observes, s) ∈ q.issued calls →
      s ≠ 0 ∧ s.isObserve = observes ∧ s.isNormal = !observes) ∧
    q.issued? calls = some (q.issued calls) ∧
    (∀ k, (((q.issuedIn false calls).drop k).take 0x7FFFFFFF).Nodup) ∧
    (∀ k, (((q.issuedIn true calls).drop k).take 0x80000000).Nodup) := by
  intro q firstNormal firstObserve
  have sound : q.Sound := sound_startingAt n o
  refine ⟨?_, ?_, ?_, issued?_eq q calls, sound.nodup_window false calls,
    sound.nodup_window true calls⟩
  · have circle := sound.issuedIn_eq false calls
    have first : (q.upcoming false).toNat = firstNormal := toNat_normal_startingAt n o
    rw [first] at circle
    exact circle
  · have circle := sound.issuedIn_eq true calls
    have first : (q.upcoming true).toNat = firstObserve := toNat_observe_startingAt n o
    rw [first] at circle
    exact circle
  · intro observes s member
    exact (sound.within member).classified

theorem numbers_pass_both_ends :
    let q := startingAt 0x7FFFFFFE 0xFFFFFFFF
    let calls := [false, true, false, true, false]
    q.issued calls = [(false, 0x7FFFFFFE), (true, 0xFFFFFFFF), (false, 0x7FFFFFFF), (true, 0x80000000),
      (false, 1)] ∧
    (false, 1) ∈ q.issued calls ∧
    ((1 : Sequence) ≠ 0 ∧ Sequence.isObserve 1 = false ∧ Sequence.isNormal 1 = true) ∧
    q.issued? calls = some (q.issued calls) := by
  intro q calls
  obtain ⟨_, _, classified, checked, _, _⟩ := numbers_go_round 0x7FFFFFFE 0xFFFFFFFF calls
  have member : (false, 1) ∈ q.issued calls := by decide
  exact ⟨by decide, member, classified false 1 member, checked⟩

end Sequencer

end ProtocolGateway
