import Mathlib
import ProtocolGateway.Plugin.Settings
import ProtocolGateway.Proofs.Data.Table

/-!
Settings between their declaration and their lock. Whatever calls come in whatever order, a value is of
its declared kind and within its bounds, a refused call leaves no trace, and from the first lock that
succeeds on nothing changes.
-/

namespace ProtocolGateway

def SettingSpec.Admits (spec : SettingSpec) (value : SettingValue) : Prop :=
  value.kind = spec.kind ∧
    ∀ i min max, value = .integer i → spec.range = some (min, max) → min ≤ i ∧ i ≤ max

namespace Settings

/-! Calls -/

inductive Call where
  | set (key : String) (value : SettingValue)
  | apply (entries : List (String × SettingValue))
  | validate
  | lock
  | get (key : String)

inductive Outcome where
  | done
  | failed (e : SettingsError)
  | value (v : Option SettingValue)
  deriving DecidableEq

def Outcome.of : Except SettingsError Unit → Outcome
  | .ok () => .done
  | .error e => .failed e

def kept (s : Settings) : Except SettingsError Settings → Settings × Outcome
  | .ok s' => (s', .done)
  | .error e => (s, .failed e)

def perform (s : Settings) : Call → Settings × Outcome
  | .set key value => s.kept (s.set key value)
  | .apply entries => ((s.apply entries).1, .of (s.apply entries).2)
  | .validate => (s, .of s.validate)
  | .lock => s.kept s.lock
  | .get key => (s, .value (s.get key))

def after (s : Settings) (calls : List Call) : Settings := calls.foldl (fun s c => (s.perform c).1) s

def declared (declarations : List (String × SettingSpec)) : Settings :=
  declarations.foldl (fun s d => s.declare d.1 d.2) .empty

def sets (entries : List (String × SettingValue)) : List Call := entries.map fun e => .set e.1 e.2

def accepts (s : Settings) (entry : String × SettingValue) : Bool :=
  (s.perform (.set entry.1 entry.2)).2 = .done

@[simp] theorem after_nil (s : Settings) : s.after [] = s := rfl

@[simp] theorem after_cons (s : Settings) (c : Call) (rest : List Call) :
    s.after (c :: rest) = (s.perform c).1.after rest := rfl

theorem after_append (s : Settings) (before later : List Call) :
    s.after (before ++ later) = (s.after before).after later := List.foldl_append

/-! Declarations -/

def InOrder (specs : List (String × SettingSpec)) : Prop := specs.Pairwise fun a b => a.1 < b.1

theorem mem_putSpec {key : String} {spec : SettingSpec} {specs : List (String × SettingSpec)}
    {entry : String × SettingSpec} (member : entry ∈ putSpec key spec specs) :
    entry = (key, spec) ∨ entry ∈ specs := by
  induction specs with
  | nil =>
    simp only [putSpec, List.mem_singleton] at member
    exact Or.inl member
  | cons first rest ih =>
    simp only [putSpec] at member
    split at member
    · rcases List.mem_cons.mp member with new | old
      · exact Or.inl new
      · exact Or.inr old
    · split at member
      · rcases List.mem_cons.mp member with new | old
        · exact Or.inl new
        · exact Or.inr (List.mem_cons_of_mem first old)
      · rcases List.mem_cons.mp member with here | later
        · exact Or.inr (here ▸ List.mem_cons_self)
        · rcases ih later with new | old
          · exact Or.inl new
          · exact Or.inr (List.mem_cons_of_mem first old)

theorem InOrder.putSpec {specs : List (String × SettingSpec)} (order : InOrder specs) (key : String)
    (spec : SettingSpec) : InOrder (putSpec key spec specs) := by
  induction specs with
  | nil => exact List.pairwise_singleton _ _
  | cons first rest ih =>
    obtain ⟨least, tail⟩ := List.pairwise_cons.mp order
    simp only [Settings.putSpec]
    by_cases before : key < first.1
    · rw [if_pos before]
      apply List.pairwise_cons.mpr
      constructor
      · intro entry member
        rcases List.mem_cons.mp member with rfl | later
        · exact before
        · exact before.trans (least entry later)
      · exact order
    · rw [if_neg before]
      by_cases same : key = first.1
      · rw [if_pos same]
        exact List.pairwise_cons.mpr ⟨fun entry member => same ▸ least entry member, tail⟩
      · rw [if_neg same]
        apply List.pairwise_cons.mpr
        constructor
        · intro entry member
          rcases mem_putSpec member with rfl | old
          · exact lt_of_le_of_ne (not_lt.mp before) (Ne.symm same)
          · exact least entry old
        · exact ih tail

theorem inOrder_declared (declarations : List (String × SettingSpec)) :
    InOrder (declared declarations).specs := by
  have fold (s : Settings) (order : InOrder s.specs) :
      InOrder (declarations.foldl (fun s d => s.declare d.1 d.2) s).specs := by
    induction declarations generalizing s with
    | nil => exact order
    | cons d rest ih => exact ih (s.declare d.1 d.2) (order.putSpec d.1 d.2)
  exact fold .empty List.Pairwise.nil

theorem InOrder.spec_iff {s : Settings} (order : InOrder s.specs) {key : String} {spec : SettingSpec} :
    s.spec? key = some spec ↔ (key, spec) ∈ s.specs := by
  have unique : (Table.keys s.specs).Nodup :=
    List.pairwise_map.mpr (order.imp fun lt => ne_of_lt lt)
  exact ⟨Table.mem_of_at?, fun member => Table.at?_of_mem unique member⟩

theorem fresh_declared (declarations : List (String × SettingSpec)) :
    (declared declarations).values = [] ∧ (declared declarations).locked = false := by
  have fold (s : Settings) :
      (declarations.foldl (fun s d => s.declare d.1 d.2) s).values = s.values ∧
        (declarations.foldl (fun s d => s.declare d.1 d.2) s).locked = s.locked := by
    induction declarations generalizing s with
    | nil => exact ⟨rfl, rfl⟩
    | cons d rest ih => exact ih (s.declare d.1 d.2)
  exact fold .empty

/-! Single values -/

theorem checkValue_iff (key : String) {spec : SettingSpec} {value : SettingValue} :
    checkValue key spec value = .ok () ↔ spec.Admits value := by
  by_cases kind : value.kind = spec.kind
  · cases value with
    | integer i =>
      cases bounds : spec.range with
      | none => simp [checkValue, SettingSpec.Admits, kind, bounds]
      | some range =>
        obtain ⟨min, max⟩ := range
        by_cases outside : i < min ∨ i > max
        · simp only [checkValue, SettingSpec.Admits, kind, bounds, outside]
          simp
          omega
        · simp only [checkValue, SettingSpec.Admits, kind, bounds, outside]
          simp
          omega
    | bool | float | text => simp [checkValue, SettingSpec.Admits, kind]
  · simp [checkValue, SettingSpec.Admits, kind]

theorem set_ok_iff {s s' : Settings} {key : String} {value : SettingValue} :
    s.set key value = .ok s' ↔ s.locked = false ∧
      ∃ spec, s.spec? key = some spec ∧ spec.Admits (widened spec.kind value) ∧
        s' = { s with values := Table.put key (widened spec.kind value) s.values } := by
  cases found : s.spec? key with
  | none => simp [set, found]
  | some spec =>
    cases check : checkValue key spec (widened spec.kind value) with
    | error e =>
      have refused : ¬spec.Admits (widened spec.kind value) := by
        rw [← checkValue_iff key, check]
        simp
      simp [set, found, check, refused]
    | ok u =>
      have admitted := (checkValue_iff key).mp check
      cases locked : s.locked with
      | true => simp [set, found, check, locked]
      | false => simp [set, found, check, locked, admitted, eq_comm]

/-! Calls one by one -/

variable {s : Settings} {key : String} {value : SettingValue}

theorem perform_set_cases (s : Settings) (key : String) (value : SettingValue) :
    (∃ spec, s.locked = false ∧ s.spec? key = some spec ∧ spec.Admits (widened spec.kind value) ∧
      s.perform (.set key value) =
        ({ s with values := Table.put key (widened spec.kind value) s.values }, .done)) ∨
    ∃ e, s.perform (.set key value) = (s, .failed e) := by
  cases result : s.set key value with
  | ok s' =>
    obtain ⟨unlocked, spec, found, admitted, rfl⟩ := set_ok_iff.mp result
    exact Or.inl ⟨spec, unlocked, found, admitted, by simp [perform, kept, result]⟩
  | error e => exact Or.inr ⟨e, by simp [perform, kept, result]⟩

theorem perform_set_done :
    (s.perform (.set key value)).2 = .done ↔ s.locked = false ∧
      ∃ spec, s.spec? key = some spec ∧ spec.Admits (widened spec.kind value) := by
  constructor
  · intro done
    rcases perform_set_cases s key value with ⟨spec, unlocked, found, admitted, _⟩ | ⟨e, failed⟩
    · exact ⟨unlocked, spec, found, admitted⟩
    · rw [failed] at done
      cases done
  · rintro ⟨unlocked, spec, found, admitted⟩
    have accepted := set_ok_iff.mpr ⟨unlocked, spec, found, admitted, rfl⟩
    simp [perform, kept, accepted]

theorem perform_set_failed {e : SettingsError} (failed : (s.perform (.set key value)).2 = .failed e) :
    (s.perform (.set key value)).1 = s := by
  rcases perform_set_cases s key value with ⟨_, _, _, _, done⟩ | ⟨_, same⟩
  · rw [done] at failed
    cases failed
  · rw [same]

theorem perform_set_frame (s : Settings) (key : String) (value : SettingValue) :
    (s.perform (.set key value)).1.specs = s.specs ∧
      (s.perform (.set key value)).1.locked = s.locked := by
  rcases perform_set_cases s key value with ⟨_, _, _, _, done⟩ | ⟨_, failed⟩
  · simp [done]
  · simp [failed]

/-- What becomes of a set depends on the declarations and on the lock, and not on what was set before. -/
theorem perform_set_congr {s s' : Settings} (specs : s'.specs = s.specs) (locked : s'.locked = s.locked)
    (key : String) (value : SettingValue) :
    (s'.perform (.set key value)).2 = (s.perform (.set key value)).2 := by
  have same : s'.spec? key = s.spec? key := congrArg (Table.at? · key) specs
  cases found : s.spec? key with
  | none => simp [perform, set, same, found, kept]
  | some spec =>
    cases check : checkValue key spec (widened spec.kind value) with
    | error e => simp [perform, set, same, found, check, kept]
    | ok u =>
      cases shut : s.locked with
      | true => simp [perform, set, same, found, check, locked, shut, kept]
      | false => simp [perform, set, same, found, check, locked, shut, kept]

theorem accepts_congr {s s' : Settings} (specs : s'.specs = s.specs) (locked : s'.locked = s.locked) :
    s'.accepts = s.accepts := by
  funext entry
  exact congrArg (fun o => decide (o = Outcome.done)) (perform_set_congr specs locked entry.1 entry.2)

/-- A batch sets what stands before its first unfit entry, and ends with what that one ends with. -/
theorem perform_apply (s : Settings) (entries : List (String × SettingValue)) :
    s.perform (.apply entries) =
      (s.after (sets (entries.takeWhile s.accepts)),
        match entries.dropWhile s.accepts with
        | [] => .done
        | entry :: _ => (s.perform (.set entry.1 entry.2)).2) := by
  induction entries generalizing s with
  | nil => rfl
  | cons entry rest ih =>
    cases result : s.set entry.1 entry.2 with
    | error e =>
      have unfit : s.accepts entry = false := by
        simp [accepts, perform, kept, result]
      simp [perform, apply, kept, result, unfit, sets, Outcome.of]
    | ok s' =>
      have fit : s.accepts entry = true := by
        simp [accepts, perform, kept, result]
      have step : (s.perform (.set entry.1 entry.2)).1 = s' := by
        simp [perform, kept, result]
      -- A set moves neither declarations nor lock, so the rest fits after it as it did before.
      have frame := perform_set_frame s entry.1 entry.2
      rw [step] at frame
      have later := ih s'
      rw [accepts_congr frame.1 frame.2] at later
      have first : s.perform (.apply (entry :: rest)) = s'.perform (.apply rest) := by
        simp [perform, apply, result]
      rw [first, later, List.takeWhile_cons_of_pos fit, List.dropWhile_cons_of_pos fit]
      cases rest.dropWhile s.accepts with
      | nil => simp [sets, step]
      | cons unfit _ => simp [sets, step, perform_set_congr frame.1 frame.2]

/-! What every call keeps -/

structure Sound (start s : Settings) : Prop where
  specs : s.specs = start.specs
  typed : ∀ key value, Table.at? s.values key = some value →
    ∃ spec, start.spec? key = some spec ∧ spec.Admits value
  complete : s.locked = true → ∀ entry ∈ start.specs, s.isMissing entry = false

theorem Sound.spec_eq {start s : Settings} (sound : Sound start s) (key : String) :
    s.spec? key = start.spec? key := congrArg (Table.at? · key) sound.specs

theorem perform_locked {s : Settings} (locked : s.locked = true) (c : Call) : (s.perform c).1 = s := by
  have shut (key : String) (value : SettingValue) : (s.perform (.set key value)).2 ≠ .done := by
    intro done
    have unlocked := (perform_set_done.mp done).1
    rw [locked] at unlocked
    cases unlocked
  cases c with
  | set key value =>
    rcases perform_set_cases s key value with ⟨_, _, _, _, done⟩ | ⟨_, failed⟩
    · exact absurd (congrArg Prod.snd done) (shut key value)
    · rw [failed]
  | apply entries =>
    have none : entries.takeWhile s.accepts = [] := by
      cases entries with
      | nil => rfl
      | cons entry rest =>
        exact List.takeWhile_cons_of_neg (by simp [accepts, shut])
    simp [perform_apply, none, sets]
  | validate => rfl
  | lock => simp [perform, lock, locked, kept]
  | get key => rfl

theorem after_locked {s : Settings} (locked : s.locked = true) (calls : List Call) :
    s.after calls = s := by
  induction calls with
  | nil => rfl
  | cons c rest ih => rw [after_cons, perform_locked locked, ih]

theorem Sound.set {start s : Settings} (sound : Sound start s) (key : String) (value : SettingValue) :
    Sound start (s.perform (.set key value)).1 := by
  rcases perform_set_cases s key value with ⟨spec, unlocked, found, admitted, done⟩ | ⟨_, failed⟩
  · rw [done]
    constructor
    · exact sound.specs
    · intro other stored at_other
      simp only [Table.at?_put] at at_other
      split at at_other
      · rename_i same
        cases at_other
        rw [sound.spec_eq, same] at found
        exact ⟨spec, found, admitted⟩
      · exact sound.typed other stored at_other
    · intro locked
      rw [unlocked] at locked
      cases locked
  · rw [failed]
    exact sound

theorem Sound.sets {start s : Settings} (sound : Sound start s)
    (entries : List (String × SettingValue)) : Sound start (s.after (sets entries)) := by
  induction entries generalizing s with
  | nil => exact sound
  | cons entry rest ih => exact ih (sound.set entry.1 entry.2)

theorem perform_lock (s : Settings) :
    (s.locked = false ∧ (∀ entry ∈ s.specs, s.isMissing entry = false) ∧
      s.perform .lock = ({ s with locked := true }, .done)) ∨
    (s.locked = false ∧ (∃ entry ∈ s.specs, s.isMissing entry = true) ∧
      ∃ e, s.perform .lock = (s, .failed e)) ∨
    (s.locked = true ∧ s.perform .lock = (s, .done)) := by
  cases locked : s.locked with
  | true => simp [perform, lock, locked, kept]
  | false =>
    cases missing : s.specs.find? s.isMissing with
    | none =>
      have full := List.find?_eq_none.mp missing
      simp only [Bool.not_eq_true] at full
      exact Or.inl ⟨rfl, full, by simp [perform, lock, locked, validate, missing, kept]⟩
    | some entry =>
      refine Or.inr (Or.inl ⟨rfl, ⟨entry, List.mem_of_find?_eq_some missing, List.find?_some missing⟩, ?_⟩)
      exact ⟨.missing entry.1, by simp [perform, lock, locked, validate, missing, kept]⟩

theorem Sound.perform {start s : Settings} (sound : Sound start s) (c : Call) :
    Sound start (s.perform c).1 := by
  cases c with
  | set key value => exact sound.set key value
  | apply entries =>
    rw [perform_apply]
    exact sound.sets _
  | validate => exact sound
  | lock =>
    rcases perform_lock s with ⟨_, full, done⟩ | ⟨_, _, e, failed⟩ | ⟨_, done⟩
    · rw [done]
      exact ⟨sound.specs, sound.typed, fun _ entry member => full entry (sound.specs ▸ member)⟩
    · rw [failed]
      exact sound
    · rw [done]
      exact sound
  | get key => exact sound

theorem Sound.after {start s : Settings} (sound : Sound start s) (calls : List Call) :
    Sound start (s.after calls) := by
  induction calls generalizing s with
  | nil => exact sound
  | cons c rest ih => exact ih (sound.perform c)

theorem sound_declared (declarations : List (String × SettingSpec)) :
    Sound (declared declarations) (declared declarations) := by
  obtain ⟨empty, unlocked⟩ := fresh_declared declarations
  constructor
  · rfl
  · simp [empty]
  · simp [unlocked]

/-! Values and required keys -/

theorem isMissing_eq_false {spec : SettingSpec} (found : s.spec? key = some spec) :
    s.isMissing (key, spec) = false ↔ (spec.required = true → (s.get key).isSome = true) := by
  have stored := Table.has_eq s.values key
  cases at_key : Table.at? s.values key with
  | some value => simp [isMissing, get, stored, at_key]
  | none =>
    cases required : spec.required with
    | false => simp [isMissing, required]
    | true =>
      cases default : spec.default <;>
        simp [isMissing, get, stored, at_key, found, required, default]

def Filled (start s : Settings) : Prop :=
  ∀ key spec, start.spec? key = some spec → spec.required = true → (s.get key).isSome = true

theorem Sound.filled_iff {start s : Settings} (sound : Sound start s) (order : InOrder start.specs) :
    Filled start s ↔ ∀ entry ∈ start.specs, s.isMissing entry = false := by
  constructor
  · intro filled entry member
    have found : start.spec? entry.1 = some entry.2 := order.spec_iff.mpr member
    exact (isMissing_eq_false (sound.spec_eq entry.1 ▸ found)).mpr (filled entry.1 entry.2 found)
  · intro full key spec found
    have member : (key, spec) ∈ start.specs := order.spec_iff.mp found
    exact (isMissing_eq_false (sound.spec_eq key ▸ found)).mp (full (key, spec) member)

theorem Sound.get_admitted {start s : Settings} (sound : Sound start s)
    (fit : ∀ key spec value, start.spec? key = some spec → spec.default = some value →
      spec.Admits value) {key : String} {value : SettingValue} (found : s.get key = some value) :
    ∃ spec, start.spec? key = some spec ∧ spec.Admits value := by
  simp only [get, sound.spec_eq] at found
  split at found
  · rename_i stored
    exact sound.typed key value (stored.trans found)
  · obtain ⟨spec, declared, default⟩ := Option.bind_eq_some_iff.mp found
    exact ⟨spec, declared, fit key spec value declared default⟩

theorem get_after_set (done : (s.perform (.set key value)).2 = .done) :
    ∃ spec, s.spec? key = some spec ∧ ∀ other, (s.perform (.set key value)).1.get other =
      if key = other then some (widened spec.kind value) else s.get other := by
  rcases perform_set_cases s key value with ⟨spec, _, found, _, set⟩ | ⟨e, failed⟩
  · refine ⟨spec, found, fun other => ?_⟩
    rw [set]
    by_cases same : key = other
    · simp [get, Table.at?_put, same]
    · simp [get, Table.at?_put, same, spec?]
  · rw [failed] at done
    cases done

/-! Locks -/

theorem perform_locks (s : Settings) (c : Call) :
    (s.perform c).1.locked = true ↔ s.locked = true ∨ c = .lock ∧ (s.perform c).2 = .done := by
  cases c with
  | set key value => simp [perform_set_frame]
  | apply entries =>
    have still (entries : List (String × SettingValue)) : (s.after (sets entries)).locked = s.locked := by
      induction entries generalizing s with
      | nil => rfl
      | cons entry rest ih => exact (ih _).trans (perform_set_frame s entry.1 entry.2).2
    simp [perform_apply, still]
  | validate => simp [perform]
  | lock =>
    rcases perform_lock s with ⟨unlocked, _, done⟩ | ⟨unlocked, _, e, failed⟩ | ⟨locked, done⟩
    · simp [done]
    · simp [failed, unlocked]
    · simp [done, locked]
  | get key => simp [perform]

def LockedBy (start : Settings) (calls : List Call) : Prop :=
  ∃ before later, calls = before ++ .lock :: later ∧ ((start.after before).perform .lock).2 = .done

theorem locked_iff {start : Settings} (unlocked : start.locked = false) (calls : List Call) :
    (start.after calls).locked = true ↔ LockedBy start calls := by
  constructor
  · intro locked
    -- By the last call: it found the lock shut, or shut it.
    induction calls using List.reverseRecOn with
    | nil =>
      rw [after_nil, unlocked] at locked
      cases locked
    | append_singleton before c ih =>
      rw [after_append, after_cons, after_nil, perform_locks] at locked
      rcases locked with earlier | ⟨rfl, done⟩
      · obtain ⟨front, later, rfl, done⟩ := ih earlier
        exact ⟨front, later ++ [c], by simp, done⟩
      · exact ⟨before, [], rfl, done⟩
  · rintro ⟨before, later, rfl, done⟩
    have locked : ((start.after before).perform .lock).1.locked = true :=
      (perform_locks _ _).mpr (Or.inr ⟨rfl, done⟩)
    rw [after_append, after_cons, after_locked locked, locked]

theorem get_perform_lock (s : Settings) (key : String) : (s.perform .lock).1.get key = s.get key := by
  rcases perform_lock s with ⟨_, _, done⟩ | ⟨_, _, e, failed⟩ | ⟨_, done⟩
  · simp [done, get, spec?]
  · simp [failed]
  · simp [done]

theorem set_fails_locked (locked : s.locked = true) (key : String) (value : SettingValue) :
    ∃ e, (s.perform (.set key value)).2 = .failed e := by
  rcases perform_set_cases s key value with ⟨_, unlocked, _⟩ | ⟨e, failed⟩
  · rw [locked] at unlocked
    cases unlocked
  · exact ⟨e, congrArg Prod.snd failed⟩

theorem Sound.lock_done {start s : Settings} (sound : Sound start s) (order : InOrder start.specs) :
    (s.perform .lock).2 = .done ↔ s.locked = true ∨ Filled start s := by
  rw [sound.filled_iff order]
  rcases perform_lock s with ⟨unlocked, full, done⟩ | ⟨unlocked, missing, e, failed⟩ | ⟨locked, done⟩
  · simp only [done, true_iff]
    exact Or.inr (sound.specs ▸ full)
  · obtain ⟨entry, member, lacks⟩ := missing
    simp only [failed, reduceCtorEq, unlocked, Bool.false_eq_true, false_or, false_iff]
    intro full
    rw [full entry (sound.specs ▸ member)] at lacks
    cases lacks
  · simp [done, locked]

/-! Whole runs -/

/-- Of settings whose defaults fit their declarations, and after whatever calls: a value that is read is
of a declared key, of its kind and within its bounds; a set that succeeds changes the value of its key
alone, and one that fails changes nothing; a batch sets what stands before its first unfit entry and
fails with it; a lock succeeds when an earlier one has or no required key lacks a value; and after a lock
that succeeded no set does, all values are those it found, and no required key lacks one. -/
theorem declared_settings_hold (declarations : List (String × SettingSpec))
    (fit : ∀ key spec value, (declared declarations).spec? key = some spec →
      spec.default = some value → spec.Admits value) (calls : List Call) :
    let start := declared declarations
    let s := start.after calls
    (∀ key value, (s.perform (.get key)).2 = .value (some value) →
      ∃ spec, start.spec? key = some spec ∧ spec.Admits value) ∧
    (∀ key value, (s.perform (.set key value)).2 = .done →
      ∃ spec, start.spec? key = some spec ∧ ∀ other, (s.perform (.set key value)).1.get other =
        if key = other then some (widened spec.kind value) else s.get other) ∧
    (∀ key value e, (s.perform (.set key value)).2 = .failed e →
      (s.perform (.set key value)).1 = s) ∧
    (∀ entries, s.perform (.apply entries) =
      (s.after (sets (entries.takeWhile s.accepts)),
        match entries.dropWhile s.accepts with
        | [] => .done
        | entry :: _ => (s.perform (.set entry.1 entry.2)).2)) ∧
    ((s.perform .lock).2 = .done ↔ LockedBy start calls ∨ Filled start s) ∧
    (∀ before later, calls = before ++ .lock :: later →
      ((start.after before).perform .lock).2 = .done →
      (∀ key value, ∃ e, (s.perform (.set key value)).2 = .failed e) ∧
      (∀ key, s.get key = (start.after before).get key) ∧ Filled start s) := by
  intro start s
  have order : InOrder start.specs := inOrder_declared declarations
  have unlocked : start.locked = false := (fresh_declared declarations).2
  have sound : Sound start s := (sound_declared declarations).after calls
  refine ⟨?_, ?_, fun _ _ _ => perform_set_failed, perform_apply s, ?_, ?_⟩
  · intro key value found
    exact sound.get_admitted fit (Outcome.value.inj found)
  · intro key value done
    obtain ⟨spec, found, values⟩ := get_after_set done
    exact ⟨spec, sound.spec_eq key ▸ found, values⟩
  · rw [sound.lock_done order, locked_iff unlocked calls]
  · intro before later split done
    have locked : s.locked = true := (locked_iff unlocked calls).mpr ⟨before, later, split, done⟩
    refine ⟨set_fails_locked locked, ?_, ?_⟩
    · intro key
      have then_locked : ((start.after before).perform .lock).1.locked = true :=
        (perform_locks _ _).mpr (Or.inr ⟨rfl, done⟩)
      -- nothing that comes after the lock changes anything, so the end is what the lock left
      have same : s = ((start.after before).perform .lock).1 := by
        change start.after calls = _
        rw [split, after_append, after_cons, after_locked then_locked]
      rw [same, get_perform_lock]
    · exact (sound.filled_iff order).mpr (sound.complete locked)

def brokerDeclarations : List (String × SettingSpec) :=
  [("port", { kind := .integer, default := some (.integer 5683), range := some (1, 65535) }),
    ("ratio", { kind := .float }), ("broker", { kind := .text, required := true })]

def brokerCalls : List Call :=
  [.lock, .apply [("port", .integer 8080), ("ratio", .integer 2), ("port", .integer 70000),
    ("broker", .text "far")], .set "broker" (.text "near"), .lock, .set "port" (.integer 1)]

theorem broker_settings_hold :
    let start := declared brokerDeclarations
    let s := start.after brokerCalls
    (∀ key spec value, start.spec? key = some spec → spec.default = some value → spec.Admits value) ∧
    s.get "port" = some (.integer 8080) ∧ s.get "broker" = some (.text "near") ∧
    (∀ key value, (s.perform (.get key)).2 = .value (some value) →
      ∃ spec, start.spec? key = some spec ∧ spec.Admits value) ∧
    (∀ key value, ∃ e, (s.perform (.set key value)).2 = .failed e) ∧ Filled start s := by
  intro start s
  have fit : ∀ key spec value, start.spec? key = some spec → spec.default = some value →
      spec.Admits value := by
    intro key spec value found default
    have member := Table.mem_of_at? found
    have specs : start.specs =
        [("broker", { kind := .text, required := true }),
          ("port", { kind := .integer, default := some (.integer 5683), range := some (1, 65535) }),
          ("ratio", { kind := .float })] := by decide +kernel
    rw [specs] at member
    simp only [List.mem_cons, List.not_mem_nil, or_false, Prod.mk.injEq] at member
    rcases member with ⟨_, rfl⟩ | ⟨_, rfl⟩ | ⟨_, rfl⟩
    · cases default
    · cases default
      exact (checkValue_iff "port").mp (show checkValue "port" _ _ = .ok () by decide)
    · cases default
  obtain ⟨typed, _, _, _, _, fixed⟩ := declared_settings_hold brokerDeclarations fit brokerCalls
  obtain ⟨fails, _, filled⟩ := fixed (brokerCalls.take 3) (brokerCalls.drop 4) rfl (by decide +kernel)
  exact ⟨fit, by decide +kernel, by decide +kernel, typed, fails, filled⟩

end Settings

end ProtocolGateway
