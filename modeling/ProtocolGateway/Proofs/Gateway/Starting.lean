import Mathlib
import ProtocolGateway.Proofs.Gateway.InService

/-!
What the log tells of the start of a gateway in service. Plugins are started in one start at most,
each of them once; the start returns without a failure exactly when no plugin failed, and otherwise
it stops the gateway and returns the failure of a plugin that did.
-/

namespace ProtocolGateway

namespace Service

/-! What is told -/

def OfStart : Notice → Bool
  | .pluginStarted _ _ | .startReturned _ => true
  | _ => false

def told (s : Service) : List Notice := s.log.filter OfStart

abbrev Step := ProtocolName × Option PluginError

def tell (x : Step) : Notice := .pluginStarted x.1 x.2

def failuresOf (steps : List Step) : Table ProtocolName PluginError :=
  steps.flatMap fun x => x.2.toList.map fun e => (x.1, e)

def Shared (s : Service) (steps : List Step) (left : List ProtocolName) : Prop :=
  (steps.map Prod.fst ++ left).Perm (Table.keys s.gateway.plugins)

/-- How far the start in which plugins are started has come. -/
inductive Chapter (s : Service) : Prop where
  | unstarted (told : s.told = []) (still : s.gateway.phase ≠ .running)
      (uncaused : ∀ c, s.call = some c → c.cause = none)
  | starting (c : LifeCall) (steps : List Step) (under : s.call = some c)
      (stage : c.stage = .starting) (told : s.told = steps.map tell)
      (failures : c.failures = failuresOf steps) (shared : s.Shared steps c.left)
  | started (steps : List Step) (told : s.told = steps.map tell ++ [.startReturned none])
      (well : ∀ x ∈ steps, x.2 = none) (shared : s.Shared steps [])
      (late : s.gateway.phase ≠ .created)
      (uncaused : ∀ c, s.call = some c → c.stage ≠ .starting ∧ c.cause = none)
  | failing (c : LifeCall) (steps : List Step) (p : ProtocolName) (cause : PluginError)
      (under : s.call = some c) (caused : c.cause = some (.plugin p cause))
      (told : s.told = steps.map tell) (blamed : (p, some cause) ∈ steps)
      (shared : s.Shared steps []) (stopped : s.gateway.phase = .stopped)
  | failed (steps : List Step) (p : ProtocolName) (cause : PluginError) (idle : s.call = none)
      (told : s.told = steps.map tell ++ [.startReturned (some (.plugin p cause))])
      (blamed : (p, some cause) ∈ steps) (shared : s.Shared steps [])
      (stopped : s.gateway.phase = .stopped)

theorem told_calls {notices : List Notice} (calls : ∀ n ∈ notices, Calls n) :
    notices.filter OfStart = [] := by
  rw [List.filter_eq_nil_iff]
  intro n member
  have called := calls n member
  cases n <;> first | exact called.elim | exact Bool.false_ne_true

/-! The verdict -/

variable {s s' : Service} {steps : List Step}

theorem mem_failuresOf {p : ProtocolName} {e : PluginError} :
    (p, e) ∈ failuresOf steps ↔ (p, some e) ∈ steps := by
  unfold failuresOf
  rw [List.mem_flatMap]
  constructor
  · rintro ⟨⟨q, failure⟩, member, listed⟩
    obtain ⟨e', failed, same⟩ := List.mem_map.mp listed
    cases same
    cases Option.mem_toList.mp failed
    exact member
  · intro member
    exact ⟨(p, some e), member, List.mem_singleton_self _⟩

theorem well_of_verdict {order : List ProtocolName}
    (all : order.Perm (Table.keys s.gateway.plugins)) (shared : s.Shared steps [])
    (fine : verdict order (failuresOf steps) = none) : ∀ x ∈ steps, x.2 = none := by
  rintro ⟨p, failure⟩ member
  cases failure with
  | none => rfl
  | some e =>
    have known : p ∈ order := all.mem_iff.mpr
      (shared.subset (List.mem_append_left _ (List.mem_map_of_mem (f := Prod.fst) member)))
    have absent : Table.at? (failuresOf steps) p = none :=
      Option.map_eq_none_iff.mp (List.findSome?_eq_none_iff.mp fine p known)
    have missing : Table.has (failuresOf steps) p = false := by
      rw [Table.has_eq, absent]
      rfl
    exact absurd (decide_eq_true rfl)
      (List.any_eq_false.mp missing (p, e) (mem_failuresOf.mpr member))

theorem blamed_of_verdict {order : List ProtocolName} {e : ManagerError}
    (failed : verdict order (failuresOf steps) = some e) :
    ∃ p cause, e = .plugin p cause ∧ (p, some cause) ∈ steps := by
  obtain ⟨p, -, found⟩ := List.exists_of_findSome?_eq_some failed
  obtain ⟨cause, first, rfl⟩ := Option.map_eq_some_iff.mp found
  exact ⟨p, cause, rfl, mem_failuresOf.mp (Table.mem_of_at? first)⟩

/-! Which chapter it is -/

theorem Chapter.of_created (chapter : s.Chapter) (sound : s.Sound)
    (created : s.gateway.phase = .created) :
    s.told = [] ∧ ∀ c, s.call = some c → c.cause = none := by
  have not_stopped : s.gateway.phase ≠ .stopped := by
    rw [created]
    decide
  cases chapter with
  | unstarted told still uncaused => exact ⟨told, uncaused⟩
  | starting c steps under stage => cases created.symm.trans (sound.phase_starting under stage)
  | started steps told well shared late => exact absurd created late
  | failing c steps p cause under caused told blamed shared stopped =>
    exact absurd stopped not_stopped
  | failed steps p cause idle told blamed shared stopped => exact absurd stopped not_stopped

theorem Chapter.of_starting (chapter : s.Chapter) (sound : s.Sound) {c : LifeCall}
    (under : s.call = some c) (stage : c.stage = .starting) :
    ∃ steps, s.told = steps.map tell ∧ c.failures = failuresOf steps ∧
      s.Shared steps c.left := by
  have running := sound.phase_starting under stage
  cases chapter with
  | unstarted told still => exact absurd running still
  | starting d steps under' stage' told failures shared =>
    cases under.symm.trans under'
    exact ⟨steps, told, failures, shared⟩
  | started steps told well shared late uncaused => exact absurd stage (uncaused c under).1
  | failing d steps p cause under' caused told blamed shared stopped =>
    cases running.symm.trans stopped
  | failed steps p cause idle => cases idle.symm.trans under

/-! How the start goes on -/

theorem Shared.of_names {left : List ProtocolName} (shared : s.Shared steps left)
    (names : Table.keys s'.gateway.plugins = Table.keys s.gateway.plugins) :
    s'.Shared steps left := by
  unfold Shared
  rw [names]
  exact shared

theorem Shared.next {left : List ProtocolName} (shared : s.Shared steps left) {p : ProtocolName}
    (mine : p ∈ left) (failure : Option PluginError) :
    s.Shared (steps ++ [(p, failure)]) (left.erase p) := by
  have order : (steps.map Prod.fst ++ p :: left.erase p).Perm (steps.map Prod.fst ++ left) :=
    (List.perm_cons_erase mine).symm.append_left _
  have moved : (steps ++ [(p, failure)]).map Prod.fst ++ left.erase p =
      steps.map Prod.fst ++ p :: left.erase p := by
    simp
  unfold Shared
  rw [moved]
  exact order.trans shared

theorem told_aside (s : Service) {n : Notice} (aside : OfStart n = false) :
    (s.log ++ [n]).filter OfStart = s.told := by
  rw [List.filter_append, List.filter_singleton, aside]
  exact List.append_nil s.told

structure Aside (s : Service) (c : LifeCall) (s' : Service) : Prop where
  told : s'.told = s.told
  names : Table.keys s'.gateway.plugins = Table.keys s.gateway.plugins
  phase : s'.gateway.phase = s.gateway.phase
  call : ∃ d, s'.call = some d ∧ d.stage ≠ .starting ∧ d.cause = c.cause

theorem Chapter.aside (chapter : s.Chapter) {c : LifeCall} (under : s.call = some c)
    (other : c.stage ≠ .starting) (aside : Aside s c s') : s'.Chapter := by
  obtain ⟨told', names, phase, d, under', other', same⟩ := aside
  have uncaused' (cause : c.cause = none) :
      ∀ e, s'.call = some e → e.stage ≠ .starting ∧ e.cause = none := by
    intro e found
    cases under'.symm.trans found
    exact ⟨other', same.trans cause⟩
  cases chapter with
  | unstarted told still uncaused =>
    exact .unstarted (told'.trans told) (phase ▸ still) fun e found =>
      (uncaused' (uncaused c under) e found).2
  | starting d steps under' stage =>
    cases under.symm.trans under'
    exact absurd stage other
  | started steps told well shared late uncaused =>
    exact .started steps (told'.trans told) well (shared.of_names names) (phase ▸ late)
      (uncaused' (uncaused c under).2)
  | failing e steps p cause under'' caused told blamed shared stopped =>
    cases under.symm.trans under''
    exact .failing d steps p cause under' (same.trans caused) (told'.trans told) blamed
      (shared.of_names names) (phase.trans stopped)
  | failed steps p cause idle => cases idle.symm.trans under

theorem Chapter.worked (chapter : s.Chapter) {g : Gateway} (steady : Gateway.Steady s.gateway g)
    (sending : List Sending) {notices : List Notice} (calls : ∀ n ∈ notices, Calls n) :
    Chapter { s with gateway := g, sending := sending, log := s.log ++ notices } := by
  have same : told { s with gateway := g, sending := sending, log := s.log ++ notices } =
      s.told := by
    unfold told
    rw [List.filter_append, told_calls calls, List.append_nil]
  cases chapter with
  | unstarted told still uncaused =>
    exact .unstarted (same.trans told) (steady.phase ▸ still) uncaused
  | starting c steps under stage told failures shared =>
    exact .starting c steps under stage (same.trans told) failures (shared.of_names steady.names)
  | started steps told well shared late uncaused =>
    exact .started steps (same.trans told) well (shared.of_names steady.names)
      (steady.phase ▸ late) uncaused
  | failing c steps p cause under caused told blamed shared stopped =>
    exact .failing c steps p cause under caused (same.trans told) blamed
      (shared.of_names steady.names) (steady.phase.trans stopped)
  | failed steps p cause idle told blamed shared stopped =>
    exact .failed steps p cause idle (same.trans told) blamed (shared.of_names steady.names)
      (steady.phase.trans stopped)

theorem Chapter.noted (chapter : s.Chapter) (idle : s.call = none) {n : Notice}
    (aside : OfStart n = false) : Chapter { s with log := s.log ++ [n] } := by
  have same : told { s with log := s.log ++ [n] } = s.told := told_aside s aside
  cases chapter with
  | unstarted told still uncaused => exact .unstarted (same.trans told) still uncaused
  | starting c steps under => cases idle.symm.trans under
  | started steps told well shared late uncaused =>
    exact .started steps (same.trans told) well shared late uncaused
  | failing c steps p cause under => cases idle.symm.trans under
  | failed steps p cause _ told blamed shared stopped =>
    exact .failed steps p cause idle (same.trans told) blamed shared stopped

theorem returns_idle (idle : s.call = none) (n : Notice) :
    s.returns n = { s with log := s.log ++ [n] } := by
  unfold returns
  rw [idle]

theorem Chapter.asked (chapter : s.Chapter) (sound : s.Sound) (idle : s.call = none)
    (asks : Asks s s') : s'.Chapter := by
  cases asks with
  | registered plugin g taken =>
    have joins := joins_register taken
    obtain ⟨told, -⟩ := chapter.of_created sound joins.created
    refine .unstarted ((told_aside s rfl).trans told) ?_ fun c under => ?_
    · change g.phase ≠ .running
      rw [joins.phase]
      decide
    · cases idle.symm.trans under
  | notRegistered e => exact chapter.noted idle rfl
  | begun order all created =>
    obtain ⟨told, -⟩ := chapter.of_created sound created
    refine .unstarted told ?_ fun c under => ?_
    · change s.gateway.phase ≠ .running
      rw [created]
      decide
    · cases under
      rfl
  | turnedDown late =>
    rw [returns_idle idle]
    exact chapter.noted idle rfl
  | halted order all alive =>
    have uncaused : ∀ c, (({ s with gateway := { s.gateway with phase := .stopped } }).enter
        .closing order [] none).call = some c → c.stage ≠ .starting ∧ c.cause = none := by
      intro c under
      cases under
      exact ⟨nofun, rfl⟩
    -- A gateway that is not stopped has no failed start behind it.
    cases chapter with
    | unstarted told still => exact .unstarted told nofun fun c under => (uncaused c under).2
    | starting c steps under => cases idle.symm.trans under
    | started steps told well shared late =>
      exact .started steps told well shared nofun uncaused
    | failing c steps p cause under => cases idle.symm.trans under
    | failed steps p cause _ told blamed shared stopped => exact absurd stopped alive
  | stoppedAgain already =>
    rw [returns_idle idle]
    exact chapter.noted idle rfl

theorem aside_attends {c d : LifeCall} {g : Gateway} {log : List Notice}
    (names : Table.keys g.plugins = Table.keys s.gateway.plugins)
    (phase : g.phase = s.gateway.phase) (told : log.filter OfStart = s.told)
    (stage : d.stage = c.stage) (other : c.stage ≠ .starting) (cause : d.cause = c.cause) :
    Aside s c { s with gateway := g, call := some d, log := log } :=
  ⟨told, names, phase, d, rfl, fun starting => other (stage.symm.trans starting), cause⟩

theorem aside_enter (s : Service) (c : LifeCall) {stage : CallStage}
    (failures : Table ProtocolName PluginError) (other : stage ≠ .starting) :
    Aside s c (s.enter stage c.order failures c.cause) :=
  ⟨rfl, rfl, rfl, _, rfl, other, rfl⟩

theorem Chapter.pluginStarted (chapter : s.Chapter) (sound : s.Sound) {c : LifeCall}
    (under : s.call = some c) (now : c.stage = .starting) {p : ProtocolName} (mine : p ∈ c.left)
    (failure : Option PluginError) {g : Gateway} (steady : Gateway.Steady s.gateway g) :
    Chapter { s with
      gateway := g
      call := some (c.tookStep p failure)
      log := s.log ++ [.pluginStarted p failure] } := by
  obtain ⟨steps, told, failures, shared⟩ := chapter.of_starting sound under now
  refine .starting _ (steps ++ [(p, failure)]) rfl now ?_ ?_
    ((shared.next mine failure).of_names steady.names)
  · change (s.log ++ [Notice.pluginStarted p failure]).filter OfStart = _
    rw [List.filter_append, List.map_append]
    exact congrArg (· ++ [tell (p, failure)]) told
  · change c.failures ++ _ = _
    rw [failures]
    unfold failuresOf
    rw [List.flatMap_append, List.flatMap_singleton]

theorem Chapter.allStarted (chapter : s.Chapter) (sound : s.Sound) {c : LifeCall}
    (under : s.call = some c) (now : c.stage = .starting) (all : c.left = [])
    (fine : verdict c.order c.failures = none) : (s.returns (.startReturned none)).Chapter := by
  obtain ⟨steps, told, failures, shared⟩ := chapter.of_starting sound under now
  rw [failures] at fine
  rw [all] at shared
  have well := well_of_verdict (sound.calls c under).order shared fine
  refine .started steps ?_ well shared ?_ fun _ under => (nothing_under_way under).elim
  · change (s.log ++ [Notice.startReturned none]).filter OfStart = _
    rw [List.filter_append]
    exact congrArg (· ++ [Notice.startReturned none]) told
  · change s.gateway.phase ≠ .created
    rw [sound.phase_starting under now]
    decide

theorem Chapter.ended (chapter : s.Chapter) {c : LifeCall} (under : s.call = some c)
    (now : c.stage = .clearing) (failure : Option ManagerError) :
    (s.returns (ending c.cause failure)).Chapter := by
  cases chapter with
  | unstarted told still uncaused =>
    rw [uncaused c under]
    exact .unstarted ((told_aside s rfl).trans told) still fun _ under =>
      (nothing_under_way under).elim
  | starting d steps under' stage =>
    cases under.symm.trans under'
    cases now.symm.trans stage
  | started steps told well shared late uncaused =>
    rw [(uncaused c under).2]
    exact .started steps ((told_aside s rfl).trans told) well shared late fun _ under =>
      (nothing_under_way under).elim
  | failing d steps p cause under' caused told blamed shared stopped =>
    cases under.symm.trans under'
    rw [caused]
    refine .failed steps p cause rfl ?_ blamed shared stopped
    change (s.log ++ [Notice.startReturned (some (.plugin p cause))]).filter OfStart = _
    rw [List.filter_append]
    exact congrArg (· ++ [Notice.startReturned (some (.plugin p cause))]) told
  | failed steps p cause idle => cases idle.symm.trans under

theorem Chapter.went (chapter : s.Chapter) (sound : s.Sound) {c : LifeCall}
    (under : s.call = some c) {stage : CallStage} (now : c.stage = stage)
    (proceeds : Proceeds s c stage s') : s'.Chapter := by
  have other (late : stage ≠ .starting) : c.stage ≠ .starting := now ▸ late
  -- Closing, stopping and clearing a plugin tells nothing of the start and leaves the chapter.
  cases proceeds with
  | locked p g steady =>
    exact chapter.aside under (other nofun)
      (aside_attends steady.names steady.phase rfl rfl (other nofun) rfl)
  | notLocked p cause =>
    have created := sound.phase_locking under now
    obtain ⟨told, -⟩ := chapter.of_created sound created
    refine .unstarted ((told_aside s rfl).trans told) ?_ fun _ under =>
      (nothing_under_way under).elim
    change s.gateway.phase ≠ .running
    rw [created]
    decide
  | opened =>
    obtain ⟨told, -⟩ := chapter.of_created sound (sound.phase_locking under now)
    exact .starting _ [] rfl rfl told rfl (sound.calls c under).order
  | pluginStarted p g failure mine steady =>
    exact chapter.pluginStarted sound under now mine failure steady
  | started all fine => exact chapter.allStarted sound under now all fine
  | failed e all failure =>
    obtain ⟨steps, told, failures, shared⟩ := chapter.of_starting sound under now
    rw [failures] at failure
    rw [all] at shared
    obtain ⟨p, cause, rfl, blamed⟩ := blamed_of_verdict failure
    exact .failing _ steps p cause rfl rfl told blamed shared rfl
  | closed p =>
    have closes := Gateway.closes_closeOne s.gateway p
    exact chapter.aside under (other nofun)
      (aside_attends closes.names closes.phase rfl rfl (other nofun) rfl)
  | shut all => exact chapter.aside under (other nofun) (aside_enter s c [] nofun)
  | pluginStopped p g failure steady =>
    exact chapter.aside under (other nofun)
      (aside_attends steady.names steady.phase (told_aside s rfl) rfl (other nofun) rfl)
  | stopped => exact chapter.aside under (other nofun) (aside_enter s c c.failures nofun)
  | cleared p =>
    have clears := Gateway.clears_clearOne s.gateway p
    exact chapter.aside under (other nofun)
      (aside_attends clears.names clears.phase rfl rfl (other nofun) rfl)
  | ended all => exact chapter.ended under now _

theorem Chapter.step (chapter : s.Chapter) (sound : s.Sound) (goes : Goes s s') : s'.Chapter := by
  cases goes with
  | ignored => exact chapter
  | worked g sending notices steady calls silent => exact chapter.worked steady sending calls
  | asked idle asks => exact chapter.asked sound idle asks
  | went c under proceeds => exact chapter.went sound under rfl proceeds

theorem Chapter.run (chapter : s.Chapter) (sound : s.Sound) (xs : List Happening) :
    (s.run xs).Chapter := by
  induction xs generalizing s with
  | nil => exact chapter
  | cons x rest ih => exact ih (chapter.step sound (goes sound x)) (sound.step (goes sound x))

end Service

end ProtocolGateway
