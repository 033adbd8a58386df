import Mathlib
import ProtocolGateway.Proofs.Gateway.Starting

/-!
The life of a gateway in service. Calls that register a plugin, start or stop are made one after the
other, and between any two pieces of them plugins and callers do what they like and what has been
set in motion goes on in any order.
-/

namespace ProtocolGateway

namespace Service

variable {s s' s'' : Service}

/-! After the end -/

def Ends : Notice → Prop
  | .stopReturned _ | .startReturned (some _) => True
  | _ => False

structure Rests (s : Service) : Prop where
  stopped : s.gateway.phase = .stopped
  idle : s.call = none

/-- The gateway stays at rest: no exchange that has ended changes, and no side of a plugin is
called. -/
structure StaysAtRest (s s' : Service) : Prop where
  rests : s'.Rests
  ended : EndsStay s.gateway.exchanges s'.gateway.exchanges
  quiet : ∃ notices, s'.log = s.log ++ notices ∧ ∀ n ∈ notices, ¬ Calls n

theorem StaysAtRest.refl (rests : s.Rests) : StaysAtRest s s :=
  ⟨rests, fun _ _ found _ => found, [], (List.append_nil _).symm, List.forall_mem_nil _⟩

theorem StaysAtRest.trans (first : StaysAtRest s s') (second : StaysAtRest s' s'') :
    StaysAtRest s s'' := by
  obtain ⟨early, log, silent⟩ := first.quiet
  obtain ⟨late, log', silent'⟩ := second.quiet
  refine ⟨second.rests, fun k x found ended => ?_, early ++ late, ?_, fun n member => ?_⟩
  · exact second.ended k x (first.ended k x found ended) ended
  · rw [log', log, List.append_assoc]
  · exact (List.mem_append.mp member).elim (silent n) (silent' n)

theorem StaysAtRest.noted (rests : s.Rests) {n : Notice} (other : ¬ Calls n) :
    StaysAtRest s { s with log := s.log ++ [n] } :=
  ⟨⟨rests.stopped, rests.idle⟩, fun _ _ found _ => found, [n], rfl, fun _ member =>
    List.mem_singleton.mp member ▸ other⟩

theorem Rests.asked (rests : s.Rests) (asks : Asks s s') : StaysAtRest s s' := by
  have late : s.gateway.phase ≠ .created := by
    rw [rests.stopped]
    decide
  cases asks with
  | registered plugin g taken => exact absurd (joins_register taken).created late
  | notRegistered e => exact .noted rests nofun
  | begun order all created => exact absurd created late
  | turnedDown =>
    rw [returns_idle rests.idle]
    exact .noted rests nofun
  | halted order all alive => exact absurd rests.stopped alive
  | stoppedAgain =>
    rw [returns_idle rests.idle]
    exact .noted rests nofun

theorem Sound.at_rest (sound : s.Sound) (rests : s.Rests) :
    Shut s.gateway ∧ ∀ p, s.gateway.pendingOf p = [] := by
  rcases sound.idle rests.idle with created | running | ⟨_, rest⟩
  · cases created.symm.trans rests.stopped
  · cases running.symm.trans rests.stopped
  · exact rest

theorem Rests.step (rests : s.Rests) (sound : s.Sound) (goes : Goes s s') : StaysAtRest s s' := by
  cases goes with
  | ignored => exact .refl rests
  | worked g sending notices steady calls silent =>
    have none := silent (sound.at_rest rests).1
    exact ⟨⟨steady.phase.trans rests.stopped, rests.idle⟩, steady.ended, notices, rfl,
      none ▸ List.forall_mem_nil _⟩
  | asked idle asks => exact rests.asked asks
  | went c under => cases rests.idle.symm.trans under

theorem Rests.run (rests : s.Rests) (sound : s.Sound) (xs : List Happening) :
    StaysAtRest s (s.run xs) := by
  induction xs generalizing s with
  | nil => exact .refl rests
  | cons x rest ih =>
    have first := rests.step sound (goes sound x)
    exact first.trans (ih first.rests (sound.step (goes sound x)))

/-! The return -/

/-- Once a call has returned that stopped the gateway, it is at rest. -/
def Sealed (s : Service) : Prop := ∀ n ∈ s.log, Ends n → s.Rests

theorem not_ends_of_calls {n : Notice} (calls : Calls n) : ¬ Ends n := by
  cases n <;> first | exact calls.elim | exact id

def Tells (s s' : Service) : Prop :=
  ∃ notices, s'.log = s.log ++ notices ∧ ∀ n ∈ notices, Ends n → s'.Rests

theorem Tells.nothing (same : s'.log = s.log) : Tells s s' :=
  ⟨[], same.trans (List.append_nil _).symm, List.forall_mem_nil _⟩

theorem Tells.one {n : Notice} (log : s'.log = s.log ++ [n]) (rests : Ends n → s'.Rests) :
    Tells s s' :=
  ⟨[n], log, fun _ member => List.mem_singleton.mp member ▸ rests⟩

theorem Asks.tells (asks : Asks s s') : Tells s s' := by
  cases asks with
  | registered | notRegistered | turnedDown => exact .one rfl False.elim
  | begun | halted => exact .nothing rfl
  | stoppedAgain already => exact .one rfl fun _ => ⟨already, rfl⟩

theorem Proceeds.tells (sound : s.Sound) {c : LifeCall} (under : s.call = some c)
    {stage : CallStage} (now : c.stage = stage) (proceeds : Proceeds s c stage s') :
    Tells s s' := by
  cases proceeds with
  | locked | opened | failed | closed | shut | stopped | cleared => exact .nothing rfl
  | notLocked | pluginStarted | started | pluginStopped => exact .one rfl False.elim
  | ended all => exact .one rfl fun _ => ⟨(sound.all_clear under now all).1, rfl⟩

theorem Goes.tells (goes : Goes s s') (sound : s.Sound) : Tells s s' := by
  cases goes with
  | ignored => exact .nothing rfl
  | worked g sending notices steady calls =>
    exact ⟨notices, rfl, fun n member ends => absurd ends (not_ends_of_calls (calls n member))⟩
  | asked idle asks => exact asks.tells
  | went c under proceeds => exact proceeds.tells sound under rfl

theorem Sealed.step (sealed : s.Sealed) (sound : s.Sound) (goes : Goes s s') : s'.Sealed := by
  intro n member ends
  obtain ⟨notices, log, told⟩ := goes.tells sound
  rw [log] at member
  rcases List.mem_append.mp member with old | new
  · exact ((sealed n old ends).step sound goes).rests
  · exact told n new ends

theorem Sealed.run (sealed : s.Sealed) (sound : s.Sound) (xs : List Happening) :
    (s.run xs).Sealed := by
  induction xs generalizing s with
  | nil => exact sealed
  | cons x rest ih => exact ih (sealed.step sound (goes sound x)) (sound.step (goes sound x))

inductive Onward : ManagerPhase → ManagerPhase → Prop where
  | still (phase : ManagerPhase) : Onward phase phase
  | started : Onward .created .running
  | stopped : Onward .running .stopped
  | neverStarted : Onward .created .stopped

theorem onward_of_same {phase phase' : ManagerPhase} (same : phase' = phase) :
    Onward phase phase' :=
  same ▸ .still phase

theorem Asks.onward (sound : s.Sound) (idle : s.call = none) (asks : Asks s s') :
    Onward s.gateway.phase s'.gateway.phase := by
  cases asks with
  | registered plugin g taken =>
    have joins := joins_register taken
    exact onward_of_same (joins.phase.trans joins.created.symm)
  | notRegistered | begun | turnedDown | stoppedAgain => exact .still _
  | halted order all alive =>
    change Onward s.gateway.phase .stopped
    rcases sound.idle idle with created | running | ⟨stopped, _⟩
    · rw [created]
      exact .neverStarted
    · rw [running]
      exact .stopped
    · exact absurd stopped alive

theorem Proceeds.onward (sound : s.Sound) {c : LifeCall} (under : s.call = some c)
    {stage : CallStage} (now : c.stage = stage) (proceeds : Proceeds s c stage s') :
    Onward s.gateway.phase s'.gateway.phase := by
  cases proceeds with
  | locked p g steady => exact onward_of_same steady.phase
  | opened =>
    change Onward s.gateway.phase .running
    rw [sound.phase_locking under now]
    exact .started
  | pluginStarted p g failure mine steady => exact onward_of_same steady.phase
  | failed e all failure =>
    change Onward s.gateway.phase .stopped
    rw [sound.phase_starting under now]
    exact .stopped
  | pluginStopped p g failure steady => exact onward_of_same steady.phase
  | cleared p => exact onward_of_same (Gateway.clears_clearOne s.gateway p).phase
  | notLocked | started | closed | shut | stopped | ended => exact .still _

theorem Goes.onward (goes : Goes s s') (sound : s.Sound) :
    Onward s.gateway.phase s'.gateway.phase := by
  cases goes with
  | ignored => exact .still _
  | worked g sending notices steady => exact onward_of_same steady.phase
  | asked idle asks => exact asks.onward sound idle
  | went c under proceeds => exact proceeds.onward sound under rfl

/-! The plugins -/

theorem Sound.distinct (sound : s.Sound) :
    (s.gateway.plugins.map fun e => Text.Ascii.lower e.1.text).Nodup := by
  have folded := sound.names.map lower_text_injective
  unfold Table.keys at folded
  rwa [List.map_map] at folded

theorem Proceeds.names {c : LifeCall} {stage : CallStage} (proceeds : Proceeds s c stage s') :
    Table.keys s'.gateway.plugins = Table.keys s.gateway.plugins := by
  cases proceeds with
  | locked p g steady => exact steady.names
  | pluginStarted p g failure mine steady => exact steady.names
  | pluginStopped p g failure steady => exact steady.names
  | closed p => exact (Gateway.closes_closeOne s.gateway p).names
  | cleared p => exact (Gateway.clears_clearOne s.gateway p).names
  | notLocked | opened | started | failed | shut | stopped | ended => rfl

theorem registers (idle : s.call = none) (plugin : Plugin) :
    (∃ g, Joins s.gateway plugin g ∧ s.next (.register plugin) =
      { s with gateway := g, log := s.log ++ [.registered plugin.protocol] }) ∨
    ∃ e, s.next (.register plugin) = { s with log := s.log ++ [.notRegistered e] } := by
  have taken : s.next (.register plugin) = s.register plugin := if_pos idle
  rw [taken]
  unfold register
  split
  · rename_i g registered
    exact Or.inl ⟨g, joins_register registered, rfl⟩
  · rename_i e _
    exact Or.inr ⟨e, rfl⟩

/-! Requests -/

theorem mem_told {n : Notice} (ofStart : OfStart n = true) : n ∈ s.log ↔ n ∈ s.told := by
  unfold told
  rw [List.mem_filter, ofStart]
  exact (and_iff_left rfl).symm

theorem mem_tell {steps : List Step} {p : ProtocolName} {failure : Option PluginError} :
    .pluginStarted p failure ∈ steps.map tell ↔ (p, failure) ∈ steps := by
  constructor
  · intro member
    obtain ⟨x, taken, same⟩ := List.mem_map.mp member
    cases same
    exact taken
  · exact fun taken => List.mem_map_of_mem (f := tell) taken

theorem returned_not_tell (steps : List Step) (failure : Option ManagerError) :
    .startReturned failure ∉ steps.map tell := by
  intro member
  obtain ⟨x, -, same⟩ := List.mem_map.mp member
  cases same

/-- What a start returns: that nothing failed, if nothing did, or a failure that there was. -/
inductive Returns (steps : List Step) : Option ManagerError → Prop where
  | well (all : ∀ x ∈ steps, x.2 = none) : Returns steps none
  | failed {p : ProtocolName} {cause : PluginError} (blamed : (p, some cause) ∈ steps) :
      Returns steps (some (.plugin p cause))

theorem Chapter.returned (chapter : s.Chapter) {failure : Option ManagerError}
    (returned : .startReturned failure ∈ s.log) : ∃ steps,
      s.told = steps.map tell ++ [.startReturned failure] ∧ Returns steps failure := by
  rw [mem_told rfl] at returned
  -- A start that is still under way has told of plugins only.
  have going {steps : List Step} (told : s.told = steps.map tell) : False := by
    rw [told] at returned
    exact returned_not_tell steps failure returned
  have last {steps : List Step} {result : Option ManagerError}
      (told : s.told = steps.map tell ++ [.startReturned result]) : failure = result := by
    rw [told] at returned
    rcases List.mem_append.mp returned with early | final
    · exact absurd early (returned_not_tell steps failure)
    · cases List.mem_singleton.mp final
      rfl
  cases chapter with
  | unstarted told =>
    have nothing : s.told = ([] : List Step).map tell := told
    exact (going nothing).elim
  | starting c steps under stage told => exact (going told).elim
  | failing c steps p cause under caused told => exact (going told).elim
  | started steps told well =>
    cases last told
    exact ⟨steps, told, .well well⟩
  | failed steps p cause idle told blamed =>
    cases last told
    exact ⟨steps, told, .failed blamed⟩

theorem Chapter.blamed (chapter : s.Chapter) {e : ManagerError}
    (returned : .startReturned (some e) ∈ s.log) :
    ∃ p cause, e = .plugin p cause ∧ .pluginStarted p (some cause) ∈ s.log := by
  obtain ⟨steps, told, ⟨⟩ | ⟨blamed⟩⟩ := chapter.returned returned
  refine ⟨_, _, rfl, (mem_told rfl).mpr ?_⟩
  rw [told]
  exact List.mem_append_left _ (mem_tell.mpr blamed)

def ahead : CallStage → Nat
  | .locking => 4
  | .starting => 3
  | .closing => 2
  | .stopping => 1
  | .clearing => 0

def Comes (s : Service) (P : LifeCall → Prop) : Prop :=
  s.call = none ∨ ∃ d, s.call = some d ∧ P d

def Piece : Happening → Prop
  | .attend _ | .turn => True
  | _ => False

/-- The call under way comes to its end by pieces of its own. -/
def Finishes (s : Service) : Prop := ∃ xs, (∀ x ∈ xs, Piece x) ∧ (s.run xs).call = none

theorem Finishes.idle (idle : s.call = none) : s.Finishes := ⟨[], List.forall_mem_nil _, idle⟩

theorem Finishes.after {x : Happening} (piece : Piece x) (rest : (s.next x).Finishes) :
    s.Finishes := by
  obtain ⟨xs, pieces, idle⟩ := rest
  exact ⟨x :: xs, List.forall_mem_cons.mpr ⟨piece, pieces⟩, idle⟩

theorem next_unlocked {c : LifeCall} (under : s.call = some c) (stage : c.stage = .locking)
    {p : ProtocolName} (mine : p ∈ c.left) {e : PluginEntry} (found : s.gateway.entry? p = some e)
    {cause : SettingsError} (incomplete : e.plugin.settings.lock = .error cause) :
    s.next (.attend p) = s.returns (.notStarted (.plugin p (.settings cause))) := by
  have refused : s.gateway.lockOne p = .error (.plugin p (.settings cause)) := by
    unfold Gateway.lockOne
    rw [found]
    dsimp only
    rw [incomplete]
  rw [next_attend under mine]
  unfold attend
  rw [stage]
  dsimp only
  rw [refused]

/-- Where a start is refused because of a plugin, the gateway is as it was before. -/
structure Refuses (s s' : Service) : Prop where
  created : s.gateway.phase = .created
  gateway : s'.gateway = s.gateway
  idle : s'.call = none

theorem Goes.refuses (goes : Goes s s') (sound : s.Sound) {p : ProtocolName} {cause : PluginError}
    (log : s'.log = s.log ++ [.notStarted (.plugin p cause)]) : Refuses s s' := by
  have silent (same : s'.log = s.log) : False := by
    have nothing := List.self_eq_append_right.mp (same.symm.trans log)
    cases nothing
  have said {n : Notice} (one : s'.log = s.log ++ [n]) : n = .notStarted (.plugin p cause) :=
    List.singleton_inj.mp (List.append_cancel_left (one.symm.trans log))
  cases goes with
  | ignored => exact (silent rfl).elim
  | worked g sending notices steady calls =>
    have told : notices = [.notStarted (.plugin p cause)] := List.append_cancel_left log
    exact (calls (.notStarted (.plugin p cause)) (told ▸ List.mem_singleton_self _)).elim
  | asked idle asks =>
    cases asks with
    | registered | notRegistered | turnedDown | stoppedAgain => cases said rfl
    | begun | halted => exact (silent rfl).elim
  | went c under proceeds =>
    generalize now : c.stage = stage at proceeds
    cases proceeds with
    | notLocked => exact ⟨sound.phase_locking under now, rfl, rfl⟩
    | locked | opened | failed | closed | shut | stopped | cleared => exact (silent rfl).elim
    | pluginStarted | started | pluginStopped => cases said rfl
    | ended =>
      have ending := said rfl
      unfold Service.ending at ending
      split at ending <;> cases ending

/-! The life of a gateway -/

/-- A request is taken, and then the plugin that it came from fails to start. -/
example :
    let p := ProtocolName.of "coap"
    let brittle : ScriptedPlugin :=
      ⟨p, .empty, true, true, some (.startFailed "no port"), none, false, [], []⟩
    let stage := [.attend p, .turn]
    let s := (new .standard .off).run ([.register (.scripted brittle), .start [p]] ++ stage ++
      [.event (.submit p (.new .read "/temp"))] ++ stage ++ stage ++ stage ++ stage)
    s.gateway.exchanges = [.resolved .dropped] ∧
    s.log = [.registered p, .pluginStarted p (some (.startFailed "no port")),
      .pluginStopped p none, .startReturned (some (.plugin p (.startFailed "no port")))] := by
  decide +kernel

end Service

end ProtocolGateway
