import Mathlib
import ProtocolGateway.Proofs.Gateway.Steady

/-!
The life of a gateway in service, whatever happens between the pieces of its calls. The state of a
call and the phase of the gateway fit together; sinks that have been closed hand nothing over, and
pending maps that have been cleared stay empty; and the log tells which plugins failed to start.
-/

namespace ProtocolGateway

namespace Gateway

variable {g g' : Gateway}

/-! Pieces of a call -/

theorem steady_lockOne {p : ProtocolName} (locked : g.lockOne p = .ok g') : Steady g g' := by
  unfold lockOne at locked
  split at locked
  · cases locked
    exact .refl g
  · split at locked
    · cases locked
    · cases locked
      exact steady_setPlugin p _

theorem steady_advanceOne (step : Plugin → Plugin × Except PluginError Unit) (p : ProtocolName) :
    Steady g (g.advanceOne step p).1 := by
  unfold advanceOne
  split
  · exact .refl g
  · exact steady_setPlugin p _

theorem door_unregistered {p : ProtocolName} (absent : p ∉ Table.keys g.plugins) :
    g.door p = none := by
  unfold door entry?
  cases found : Table.at? g.plugins p with
  | none => rfl
  | some e => exact absurd (List.mem_map_of_mem (f := Prod.fst) (Table.mem_of_at? found)) absent

theorem pendingOf_unregistered {p : ProtocolName} (absent : p ∉ Table.keys g.plugins) :
    g.pendingOf p = [] := by
  have none := door_unregistered absent
  unfold door at none
  unfold pendingOf
  rw [Option.map_eq_none_iff.mp none]
  rfl

structure Closes (g : Gateway) (p : ProtocolName) (g' : Gateway) : Prop where
  phase : g'.phase = g.phase
  names : Table.keys g'.plugins = Table.keys g.plugins
  covered : g.traffic.Covered → g'.traffic.Covered
  exchanges : g'.exchanges = g.exchanges
  shut : g'.door p ≠ some false
  others : ∀ q, q ≠ p → g'.door q = g.door q

theorem closes_closeOne (g : Gateway) (p : ProtocolName) : Closes g p (g.closeOne p) where
  phase := rfl
  names := names_updateEntry p _
  covered covered := by
    have pending : (g.closeOne p).pendingOf = g.pendingOf := by
      unfold closeOne
      rw [pendingOf_updateEntry]
      exact g.update_pendingOf p
    exact covered.of_same pending rfl
  exchanges := rfl
  shut := by
    unfold door closeOne
    rw [entry?_updateEntry, if_pos rfl]
    cases g.entry? p <;> simp [Sink.close]
  others q other := by
    unfold door closeOne
    rw [entry?_updateEntry, if_neg fun same => other same.symm]

structure Clears (g : Gateway) (p : ProtocolName) (g' : Gateway) : Prop where
  phase : g'.phase = g.phase
  names : Table.keys g'.plugins = Table.keys g.plugins
  covered : g.traffic.Covered → g'.traffic.Covered
  ended : EndsStay g.exchanges g'.exchanges
  doors : ∀ q, g'.door q = g.door q
  empty : g'.pendingOf p = []
  others : ∀ q, q ≠ p → g'.pendingOf q = g.pendingOf q

theorem waiting_of_dropped {ks : List Ticket} {exchanges : List Exchange} {j : Ticket}
    (waiting : (ks.foldl (fun xs k => Traffic.concluded xs k .dropped) exchanges)[j]? =
      some .waiting) : exchanges[j]? = some .waiting ∧ j ∉ ks := by
  induction ks generalizing exchanges with
  | nil => exact ⟨waiting, List.not_mem_nil⟩
  | cons k rest ih =>
    obtain ⟨first, others⟩ := ih waiting
    rw [Traffic.concluded_at] at first
    split at first
    · cases first
    · rename_i other
      refine ⟨first, fun member => ?_⟩
      rcases List.mem_cons.mp member with rfl | later
      · exact other ⟨rfl, first⟩
      · exact others later

theorem endsStay_of_dropped (ks : List Ticket) (exchanges : List Exchange) :
    EndsStay exchanges (ks.foldl (fun xs k => Traffic.concluded xs k .dropped) exchanges) := by
  induction ks generalizing exchanges with
  | nil => exact fun _ _ found _ => found
  | cons k rest ih =>
    intro j x found ended
    exact ih _ j x (EndsStay.concluded exchanges k .dropped j x found ended) ended

theorem clears_clearOne (g : Gateway) (p : ProtocolName) : Clears g p (g.clearOne p) := by
  let tickets := ((g.entry? p).map fun e => e.pending.map (·.2)).getD []
  let g' := tickets.foldl (fun g t => (g.conclude t .dropped).1) g
  obtain ⟨traffic, plugins⟩ := g.traffic_concludeAll tickets
  have pending : (g.clearOne p).pendingOf = Function.update g.pendingOf p [] := by
    change (g'.updateEntry p fun e => { e with pending := [] }).pendingOf = _
    rw [pendingOf_updateEntry,
      show g'.pendingOf = g.pendingOf from congrArg Traffic.pending traffic]
    congr 1
    cases g'.entry? p <;> rfl
  -- Whoever waits for this plugin is told that no outcome will come.
  have exchanges : (g.clearOne p).exchanges =
      tickets.foldl (fun xs k => Traffic.concluded xs k .dropped) g.exchanges :=
    congrArg Traffic.exchanges traffic
  refine ⟨congrArg Traffic.phase traffic, ?_, fun covered k waiting => ?_,
    exchanges ▸ endsStay_of_dropped tickets g.exchanges, fun q => ?_, ?_, fun q other => ?_⟩
  · exact (names_updateEntry (g := g') p _).trans (congrArg Table.keys plugins)
  · -- Whoever still waits was not among those who waited for this plugin.
    change (g.clearOne p).exchanges[k]? = _ at waiting
    rw [exchanges] at waiting
    obtain ⟨waited, spared⟩ := waiting_of_dropped waiting
    obtain ⟨q, s, found⟩ := covered k waited
    have other : q ≠ p := by
      rintro rfl
      apply spared
      change k ∈ ((g.entry? q).map fun e => e.pending.map (·.2)).getD []
      have member := Table.mem_of_at? (t := g.pendingOf q) found
      unfold pendingOf at member
      cases entry : g.entry? q with
      | none =>
        rw [entry] at member
        cases member
      | some e =>
        rw [entry] at member
        exact List.mem_map_of_mem (f := Prod.snd) member
    refine ⟨q, s, ?_⟩
    change Table.at? ((g.clearOne p).pendingOf q) s = some k
    rw [pending, Function.update_of_ne other]
    exact found
  · have kept : g'.door q = g.door q := by
      unfold door entry?
      rw [plugins]
    rw [← kept]
    refine door_updateEntry p ?_ q
    exact fun _ _ => rfl
  · rw [pending, Function.update_self]
  · rw [pending, Function.update_of_ne other]

end Gateway

namespace Service

open Gateway (Steady)

/-! What a happening can do -/

def Calls : Notice → Prop
  | .requestHandled _ _ | .replyHandled _ _ => True
  | _ => False

def Shut (g : Gateway) : Prop := ∀ p, g.door p ≠ some false

/-- A call is made while none is under way. -/
inductive Asks (s : Service) : Service → Prop where
  | registered (plugin : Plugin) (g : Gateway) (taken : s.gateway.register plugin = .ok g) :
      Asks s { s with gateway := g, log := s.log ++ [.registered plugin.protocol] }
  | notRegistered (e : ManagerError) : Asks s { s with log := s.log ++ [.notRegistered e] }
  | begun (order : List ProtocolName) (all : order.Perm (Table.keys s.gateway.plugins))
      (created : s.gateway.phase = .created) : Asks s (s.enter .locking order [] none)
  | turnedDown (late : s.gateway.phase ≠ .created) :
      Asks s (s.returns (.notStarted (.invalidState s.gateway.phase)))
  | halted (order : List ProtocolName) (all : order.Perm (Table.keys s.gateway.plugins))
      (alive : s.gateway.phase ≠ .stopped) :
      Asks s
        ({ s with gateway := { s.gateway with phase := .stopped } }.enter .closing order [] none)
  | stoppedAgain (already : s.gateway.phase = .stopped) : Asks s (s.returns (.stopReturned none))

inductive Proceeds (s : Service) (c : LifeCall) : CallStage → Service → Prop where
  | locked (p : ProtocolName) (g : Gateway) (steady : Steady s.gateway g) :
      Proceeds s c .locking { s with gateway := g, call := some (c.without p) }
  | notLocked (p : ProtocolName) (cause : SettingsError) :
      Proceeds s c .locking (s.returns (.notStarted (.plugin p (.settings cause))))
  /-- All settings are locked, and the gateway runs. -/
  | opened : Proceeds s c .locking
      ({ s with gateway := { s.gateway with phase := .running } }.enter .starting c.order [] none)
  | pluginStarted (p : ProtocolName) (g : Gateway) (failure : Option PluginError)
      (mine : p ∈ c.left) (steady : Steady s.gateway g) :
      Proceeds s c .starting
        { s with
          gateway := g
          call := some (c.tookStep p failure)
          log := s.log ++ [.pluginStarted p failure] }
  /-- No plugin failed to start. -/
  | started (all : c.left = []) (fine : verdict c.order c.failures = none) :
      Proceeds s c .starting (s.returns (.startReturned none))
  /-- Some plugin failed to start, and the gateway begins to stop. -/
  | failed (e : ManagerError) (all : c.left = [])
      (failure : verdict c.order c.failures = some e) :
      Proceeds s c .starting ({ s with gateway := { s.gateway with phase := .stopped } }.enter
        .closing c.order [] (some e))
  | closed (p : ProtocolName) :
      Proceeds s c .closing { s with gateway := s.gateway.closeOne p, call := some (c.without p) }
  | shut (all : c.left = []) : Proceeds s c .closing (s.enter .stopping c.order [] c.cause)
  | pluginStopped (p : ProtocolName) (g : Gateway) (failure : Option PluginError)
      (steady : Steady s.gateway g) :
      Proceeds s c .stopping
        { s with
          gateway := g
          call := some (c.tookStep p failure)
          log := s.log ++ [.pluginStopped p failure] }
  | stopped : Proceeds s c .stopping (s.enter .clearing c.order c.failures c.cause)
  | cleared (p : ProtocolName) :
      Proceeds s c .clearing { s with gateway := s.gateway.clearOne p, call := some (c.without p) }
  | ended (all : c.left = []) :
      Proceeds s c .clearing (s.returns (ending c.cause (verdict c.order c.failures)))

inductive Goes (s : Service) : Service → Prop where
  | ignored : Goes s s
  /-- The gateway works, or a plugin changes. -/
  | worked (g : Gateway) (sending : List Sending) (notices : List Notice)
      (steady : Steady s.gateway g) (calls : ∀ n ∈ notices, Calls n)
      (silent : Shut s.gateway → notices = []) :
      Goes s { s with gateway := g, sending := sending, log := s.log ++ notices }
  | asked {s' : Service} (idle : s.call = none) (asks : Asks s s') : Goes s s'
  | went {s' : Service} (c : LifeCall) (under : s.call = some c)
      (proceeds : Proceeds s c c.stage s') : Goes s s'

/-! The stage of a call -/

def Fits (g : Gateway) (c : LifeCall) : Prop :=
  match c.stage with
  | .locking => g.phase = .created
  | .starting => g.phase = .running
  | .closing => g.phase = .stopped ∧ ∀ p, p ∉ c.left → g.door p ≠ some false
  | .stopping => g.phase = .stopped ∧ Shut g
  | .clearing => g.phase = .stopped ∧ Shut g ∧ ∀ p, p ∉ c.left → g.pendingOf p = []

def Idle (g : Gateway) : Prop :=
  g.phase = .created ∨ g.phase = .running ∨
    g.phase = .stopped ∧ Shut g ∧ ∀ p, g.pendingOf p = []

structure UnderWay (g : Gateway) (c : LifeCall) : Prop where
  order : c.order.Perm (Table.keys g.plugins)
  fits : Fits g c

structure Sound (s : Service) : Prop where
  names : (Table.keys s.gateway.plugins).Nodup
  covered : s.gateway.traffic.Covered
  idle : s.call = none → Idle s.gateway
  calls : ∀ c, s.call = some c → UnderWay s.gateway c

/-! What fits each stage -/

section Stages

variable {s : Service} {c : LifeCall}

theorem Sound.phase_locking (sound : s.Sound) (under : s.call = some c)
    (stage : c.stage = .locking) : s.gateway.phase = .created := by
  have fits := (sound.calls c under).fits
  unfold Fits at fits
  rwa [stage] at fits

theorem Sound.phase_starting (sound : s.Sound) (under : s.call = some c)
    (stage : c.stage = .starting) : s.gateway.phase = .running := by
  have fits := (sound.calls c under).fits
  unfold Fits at fits
  rwa [stage] at fits

theorem Sound.all_shut (sound : s.Sound) (under : s.call = some c) (stage : c.stage = .closing)
    (all : c.left = []) : s.gateway.phase = .stopped ∧ Shut s.gateway := by
  have fits := (sound.calls c under).fits
  unfold Fits at fits
  rw [stage] at fits
  exact ⟨fits.1, fun p => fits.2 p (all ▸ List.not_mem_nil)⟩

theorem Sound.shut_stopping (sound : s.Sound) (under : s.call = some c)
    (stage : c.stage = .stopping) : s.gateway.phase = .stopped ∧ Shut s.gateway := by
  have fits := (sound.calls c under).fits
  unfold Fits at fits
  rwa [stage] at fits

theorem Sound.all_clear (sound : s.Sound) (under : s.call = some c) (stage : c.stage = .clearing)
    (all : c.left = []) : s.gateway.phase = .stopped ∧ Shut s.gateway ∧
      ∀ p, s.gateway.pendingOf p = [] := by
  have fits := (sound.calls c under).fits
  unfold Fits at fits
  rw [stage] at fits
  exact ⟨fits.1, fits.2.1, fun p => fits.2.2 p (all ▸ List.not_mem_nil)⟩

end Stages

theorem next_attend {s : Service} {c : LifeCall} (under : s.call = some c) {p : ProtocolName}
    (mine : p ∈ c.left) : s.next (.attend p) = s.attend c p := by
  unfold next
  rw [under]
  exact if_pos mine

theorem next_turn {s : Service} {c : LifeCall} (under : s.call = some c) (all : c.left = []) :
    s.next .turn = s.turn c := by
  unfold next
  rw [under]
  exact if_pos all

theorem proceeds_attend (s : Service) {c : LifeCall} {p : ProtocolName} (mine : p ∈ c.left) :
    Proceeds s c c.stage (s.attend c p) := by
  unfold attend
  cases c.stage with
  | locking =>
    dsimp only
    split
    · rename_i e refused
      obtain ⟨cause, rfl⟩ : ∃ cause, e = .plugin p (.settings cause) := by
        unfold Gateway.lockOne at refused
        split at refused
        · cases refused
        · split at refused
          · cases refused
            exact ⟨_, rfl⟩
          · cases refused
      exact .notLocked p cause
    · rename_i g taken
      exact .locked p g (Gateway.steady_lockOne taken)
  | starting => exact .pluginStarted p _ _ mine (Gateway.steady_advanceOne Plugin.start p)
  | closing => exact .closed p
  | stopping => exact .pluginStopped p _ _ (Gateway.steady_advanceOne Plugin.stop p)
  | clearing => exact .cleared p

theorem proceeds_turn {s : Service} (sound : s.Sound) {c : LifeCall} (under : s.call = some c)
    (all : c.left = []) : Proceeds s c c.stage (s.turn c) := by
  unfold turn
  cases stage : c.stage with
  | locking =>
    dsimp only
    rw [if_pos (sound.phase_locking under stage)]
    exact .opened
  | starting =>
    dsimp only
    split
    · rename_i fine
      exact .started all fine
    · rename_i e failure
      unfold halt
      rw [if_neg (by rw [sound.phase_starting under stage]; decide)]
      exact .failed e all failure
  | closing => exact .shut all
  | stopping => exact .stopped
  | clearing => exact .ended all

theorem calls_handled (g : Gateway) (e : Gateway.Event) : ∀ n ∈ g.handled e, Calls n := by
  intro n member
  unfold Gateway.handled at member
  split at member
  · split at member
    · split at member
      · rw [List.mem_singleton.mp member]
        trivial
      · rw [List.mem_singleton.mp member]
        trivial
      · cases member
    · cases member
  · cases member

theorem goes_quietly (s : Service) {g : Gateway} (sending : List Sending)
    (steady : Steady s.gateway g) : Goes s { s with gateway := g, sending := sending } := by
  have same : s.log ++ [] = s.log := List.append_nil s.log
  have worked := Goes.worked (s := s) g sending [] steady (List.forall_mem_nil _) fun _ => rfl
  rwa [same] at worked

theorem asks_register (s : Service) (plugin : Plugin) : Asks s (s.register plugin) := by
  unfold register
  split
  · rename_i g taken
    exact .registered plugin g taken
  · exact .notRegistered _

theorem asks_start {s : Service} {order : List ProtocolName}
    (all : order.Perm (Table.keys s.gateway.plugins)) : Asks s (s.start order) := by
  unfold start
  split
  · rename_i created
    exact .begun order all created
  · rename_i late
    exact .turnedDown late

theorem asks_halt {s : Service} {order : List ProtocolName}
    (all : order.Perm (Table.keys s.gateway.plugins)) : Asks s (s.halt order none) := by
  unfold halt
  split
  · rename_i already
    exact .stoppedAgain already
  · rename_i alive
    exact .halted order all alive

theorem goes {s : Service} (sound : s.Sound) (x : Happening) : Goes s (s.next x) := by
  cases x with
  | register plugin =>
    unfold next
    dsimp only
    split
    · rename_i idle
      exact .asked idle (asks_register s plugin)
    · exact .ignored
  | start order =>
    unfold next
    dsimp only
    split
    · rename_i free
      exact .asked free.1 (asks_start free.2)
    · exact .ignored
  | stop order =>
    unfold next
    dsimp only
    split
    · rename_i free
      exact .asked free.1 (asks_halt free.2)
    · exact .ignored
  | attend p =>
    unfold next
    dsimp only
    split
    · rename_i c under
      split
      · rename_i mine
        exact .went c under (proceeds_attend s mine)
      · exact .ignored
    · exact .ignored
  | turn =>
    unfold next
    dsimp only
    split
    · rename_i c under
      split
      · rename_i all
        exact .went c under (proceeds_turn sound under all)
      · exact .ignored
    · exact .ignored
  -- The rest is the gateway at its work, in which no call takes part.
  | become p plugin => exact goes_quietly s s.sending (Gateway.steady_setPlugin p plugin)
  | beginSend p r =>
    unfold next
    dsimp only
    split
    · rename_i registered
      have steady := Gateway.steady_beginSend registered r
      unfold beginSend
      split <;> rename_i same <;> rw [same] at steady
      · exact goes_quietly s _ steady
      · exact goes_quietly s s.sending steady
    · exact .ignored
  | endSend i =>
    unfold next
    dsimp only
    split
    · rename_i x _
      exact goes_quietly s _ (Gateway.steady_endSend x)
    · exact .ignored
  | event e =>
    exact .worked _ s.sending _ (Gateway.steady_step e) (calls_handled s.gateway e)
      fun shut => Gateway.handled_shut shut e

/-! The invariant of a run -/

theorem shut_of_doors {g g' : Gateway} (doors : ∀ p, g'.door p = g.door p) (shut : Shut g) :
    Shut g' :=
  fun p => doors p ▸ shut p

theorem Idle.steady {g g' : Gateway} (idle : Idle g) (steady : Steady g g') : Idle g' := by
  rcases idle with created | running | ⟨stopped, shut, empty⟩
  · exact Or.inl (steady.phase.trans created)
  · exact Or.inr (Or.inl (steady.phase.trans running))
  · have still : g.phase ≠ .running := by
      rw [stopped]
      decide
    exact Or.inr (Or.inr ⟨steady.phase.trans stopped, shut_of_doors steady.doors shut,
      fun p => steady.silent still p (empty p)⟩)

theorem Fits.steady {g g' : Gateway} {c : LifeCall} (fits : Fits g c) (steady : Steady g g') :
    Fits g' c := by
  unfold Fits at fits ⊢
  cases stage : c.stage <;> rw [stage] at fits
  · exact steady.phase.trans fits
  · exact steady.phase.trans fits
  · exact ⟨steady.phase.trans fits.1, fun p seen => steady.doors p ▸ fits.2 p seen⟩
  · exact ⟨steady.phase.trans fits.1, shut_of_doors steady.doors fits.2⟩
  · have still : g.phase ≠ .running := by
      rw [fits.1]
      decide
    exact ⟨steady.phase.trans fits.1, shut_of_doors steady.doors fits.2.1,
      fun p seen => steady.silent still p (fits.2.2 p seen)⟩

/-- A plugin is taken on: the gateway is new, and no other plugin has its name up to the case of
ASCII letters. -/
structure Joins (g : Gateway) (plugin : Plugin) (g' : Gateway) : Prop where
  created : g.phase = .created
  capable : plugin.hasClient = true ∨ plugin.hasServer = true
  new : ∀ q ∈ Table.keys g.plugins,
    Text.Ascii.lower q.text ≠ Text.Ascii.lower plugin.protocol.text
  joined : g' = { g with plugins := g.plugins ++ [(plugin.protocol, ⟨plugin.link, [], .wired⟩)] }

theorem lower_text_injective :
    Function.Injective fun p : ProtocolName => Text.Ascii.lower p.text := by
  rintro ⟨a, folded⟩ ⟨b, folded'⟩ same
  obtain rfl : a = b := folded.symm.trans (same.trans folded')
  rfl

theorem joins_register {g g' : Gateway} {plugin : Plugin} (taken : g.register plugin = .ok g') :
    Joins g plugin g' := by
  obtain ⟨created, capable, new, whole⟩ := Gateway.register_ok taken
  have absent : plugin.protocol ∉ Table.keys g.plugins := fun member => new (Table.has_iff.mpr member)
  rw [Table.put_of_absent absent] at whole
  refine ⟨created, capable, fun q member same => ?_, whole⟩
  exact absent (lower_text_injective same ▸ member)

theorem Joins.absent {g g' : Gateway} {plugin : Plugin} (joins : Joins g plugin g') :
    plugin.protocol ∉ Table.keys g.plugins :=
  fun member => joins.new _ member rfl

theorem Joins.phase {g g' : Gateway} {plugin : Plugin} (joins : Joins g plugin g') :
    g'.phase = .created := by
  rw [joins.joined]
  exact joins.created

theorem Joins.names {g g' : Gateway} {plugin : Plugin} (joins : Joins g plugin g') :
    Table.keys g'.plugins = Table.keys g.plugins ++ [plugin.protocol] := by
  rw [joins.joined]
  exact List.map_append

theorem nothing_under_way {s : Service} {n : Notice} {c : LifeCall}
    (under : (s.returns n).call = some c) : False := by
  have idle : (s.returns n).call = none := rfl
  exact nomatch idle.symm.trans under

theorem Sound.returns {s : Service} (sound : s.Sound) (idle : Idle s.gateway) (n : Notice) :
    (s.returns n).Sound :=
  ⟨sound.names, sound.covered, fun _ => idle, fun _ under => (nothing_under_way under).elim⟩

theorem UnderWay.steady {g g' : Gateway} {c : LifeCall} (call : UnderWay g c)
    (steady : Steady g g') : UnderWay g' c :=
  ⟨steady.names ▸ call.order, call.fits.steady steady⟩

section Entering

variable {s : Service} {stage : CallStage} {order : List ProtocolName}
  {failures : Table ProtocolName PluginError} {cause : Option ManagerError}

theorem Sound.enter (sound : s.Sound) (all : order.Perm (Table.keys s.gateway.plugins))
    (fits : Fits s.gateway ⟨stage, order, order, failures, cause⟩) :
    (s.enter stage order failures cause).Sound :=
  ⟨sound.names, sound.covered, nofun, fun _ under => Option.some.inj under ▸ ⟨all, fits⟩⟩

theorem Sound.move (sound : s.Sound) {phase : ManagerPhase}
    (all : order.Perm (Table.keys s.gateway.plugins))
    (fits : Fits { s.gateway with phase := phase } ⟨stage, order, order, failures, cause⟩) :
    ({ s with gateway := { s.gateway with phase := phase } }.enter stage order failures
      cause).Sound :=
  ⟨sound.names, sound.covered.of_same rfl rfl, nofun, fun _ under =>
    Option.some.inj under ▸ ⟨all, fits⟩⟩

end Entering

theorem fits_starting (g : Gateway) (order : List ProtocolName) :
    Fits { g with phase := .running } ⟨.starting, order, order, [], none⟩ :=
  Eq.refl ManagerPhase.running

theorem fits_closing {g : Gateway} {order : List ProtocolName}
    (all : order.Perm (Table.keys g.plugins)) (cause : Option ManagerError) :
    Fits { g with phase := .stopped } ⟨.closing, order, order, [], cause⟩ := by
  refine ⟨rfl, fun p absent => ?_⟩
  have none : g.door p = none :=
    Gateway.door_unregistered fun member => absent (all.mem_iff.mpr member)
  change g.door p ≠ some false
  rw [none]
  exact nofun

/-- A plugin takes part in a stage that says nothing of those who are still to take part. -/
theorem Sound.takePart {s : Service} (sound : s.Sound) {c d : LifeCall} (under : s.call = some c)
    (same : d.stage = c.stage) (order : d.order = c.order)
    (free : c.stage ≠ .closing ∧ c.stage ≠ .clearing) {g : Gateway}
    (steady : Steady s.gateway g) (log : List Notice) :
    Sound { s with gateway := g, call := some d, log := log } := by
  obtain ⟨all, fits⟩ := (sound.calls c under).steady steady
  refine ⟨steady.names ▸ sound.names, steady.covered sound.covered, nofun, fun e under' => ?_⟩
  rw [← Option.some.inj under']
  refine ⟨order ▸ all, ?_⟩
  unfold Fits at fits ⊢
  rw [same]
  cases stage : c.stage <;> rw [stage] at fits
  · exact fits
  · exact fits
  · exact absurd stage free.1
  · exact fits
  · exact absurd stage free.2

theorem Sound.register {s : Service} (sound : s.Sound) {plugin : Plugin} {g : Gateway}
    (idle : s.call = none) (taken : s.gateway.register plugin = .ok g) (log : List Notice) :
    Sound { s with gateway := g, log := log } := by
  have joins := joins_register taken
  have traffic := Gateway.traffic_register taken
  refine ⟨?_, traffic ▸ sound.covered, fun _ => Or.inl joins.phase,
    fun c under => nomatch idle.symm.trans under⟩
  change (Table.keys g.plugins).Nodup
  rw [joins.names]
  exact List.nodup_append.mpr ⟨sound.names, List.nodup_singleton _, fun a member b last => by
    rw [List.mem_singleton.mp last]
    exact fun same => joins.absent (same ▸ member)⟩

theorem Sound.close {s : Service} (sound : s.Sound) {c : LifeCall} (under : s.call = some c)
    (stage : c.stage = .closing) (p : ProtocolName) :
    Sound { s with gateway := s.gateway.closeOne p, call := some (c.without p) } := by
  have closes := Gateway.closes_closeOne s.gateway p
  obtain ⟨all, fits⟩ := sound.calls c under
  refine ⟨closes.names ▸ sound.names, closes.covered sound.covered, nofun, fun d under' => ?_⟩
  rw [← Option.some.inj under']
  refine ⟨closes.names ▸ all, ?_⟩
  unfold Fits at fits ⊢
  rw [stage] at fits
  rw [show (c.without p).stage = .closing from stage]
  refine ⟨closes.phase.trans fits.1, fun q seen => ?_⟩
  by_cases same : q = p
  · exact same ▸ closes.shut
  · rw [closes.others q same]
    exact fits.2 q fun member => seen ((List.mem_erase_of_ne same).mpr member)

theorem Sound.clear {s : Service} (sound : s.Sound) {c : LifeCall} (under : s.call = some c)
    (stage : c.stage = .clearing) (p : ProtocolName) :
    Sound { s with gateway := s.gateway.clearOne p, call := some (c.without p) } := by
  have clears := Gateway.clears_clearOne s.gateway p
  obtain ⟨all, fits⟩ := sound.calls c under
  refine ⟨clears.names ▸ sound.names, clears.covered sound.covered, nofun, fun d under' => ?_⟩
  rw [← Option.some.inj under']
  refine ⟨clears.names ▸ all, ?_⟩
  unfold Fits at fits ⊢
  rw [stage] at fits
  rw [show (c.without p).stage = .clearing from stage]
  refine ⟨clears.phase.trans fits.1, shut_of_doors clears.doors fits.2.1, fun q seen => ?_⟩
  by_cases same : q = p
  · exact same ▸ clears.empty
  · rw [clears.others q same]
    exact fits.2.2 q fun member => seen ((List.mem_erase_of_ne same).mpr member)

theorem Sound.asked {s s' : Service} (sound : s.Sound) (idle : s.call = none) (asks : Asks s s') :
    s'.Sound := by
  cases asks with
  | registered plugin g taken => exact sound.register idle taken _
  | notRegistered e => exact ⟨sound.names, sound.covered, sound.idle, sound.calls⟩
  | begun order all created => exact sound.enter all created
  | turnedDown late => exact sound.returns (sound.idle idle) _
  | halted order all alive => exact sound.move all (fits_closing all none)
  | stoppedAgain already => exact sound.returns (sound.idle idle) _

theorem Sound.went {s s' : Service} (sound : s.Sound) {c : LifeCall} (under : s.call = some c)
    {stage : CallStage} (now : c.stage = stage) (proceeds : Proceeds s c stage s') : s'.Sound := by
  have order := (sound.calls c under).order
  cases proceeds with
  | locked p g steady =>
    exact sound.takePart (d := c.without p) under rfl rfl (by rw [now]; decide) steady _
  | notLocked p cause => exact sound.returns (Or.inl (sound.phase_locking under now)) _
  | opened => exact sound.move order (fits_starting s.gateway c.order)
  | pluginStarted p g failure mine steady =>
    exact sound.takePart (d := c.tookStep p failure) under rfl rfl (by rw [now]; decide) steady _
  | started all fine => exact sound.returns (Or.inr (Or.inl (sound.phase_starting under now))) _
  | failed e all failure => exact sound.move order (fits_closing order (some e))
  | closed p => exact sound.close under now p
  | shut all => exact sound.enter order (sound.all_shut under now all)
  | pluginStopped p g failure steady =>
    exact sound.takePart (d := c.tookStep p failure) under rfl rfl (by rw [now]; decide) steady _
  | stopped =>
    obtain ⟨stopped, shut⟩ := sound.shut_stopping under now
    exact sound.enter order ⟨stopped, shut, fun p absent =>
      Gateway.pendingOf_unregistered fun member => absent (order.mem_iff.mpr member)⟩
  | cleared p => exact sound.clear under now p
  | ended all => exact sound.returns (Or.inr (Or.inr (sound.all_clear under now all))) _

theorem Sound.step {s s' : Service} (sound : s.Sound) (goes : Goes s s') : s'.Sound := by
  cases goes with
  | ignored => exact sound
  | worked g sending notices steady calls silent =>
    exact ⟨steady.names ▸ sound.names, steady.covered sound.covered,
      fun idle => (sound.idle idle).steady steady,
      fun c under => (sound.calls c under).steady steady⟩
  | asked idle asks => exact sound.asked idle asks
  | went c under proceeds => exact sound.went under rfl proceeds

theorem sound_new (config : ManagerConfig) (cache : ReplyCache) : (new config cache).Sound :=
  have idle : (new config cache).call = none := rfl
  ⟨List.nodup_nil, fun _ waiting => (nomatch waiting), fun _ => Or.inl rfl,
    fun _ under => nomatch idle.symm.trans under⟩

theorem Sound.run {s : Service} (sound : s.Sound) (xs : List Happening) : (s.run xs).Sound := by
  induction xs generalizing s with
  | nil => exact sound
  | cons x rest ih => exact ih (sound.step (goes sound x))

end Service

end ProtocolGateway
