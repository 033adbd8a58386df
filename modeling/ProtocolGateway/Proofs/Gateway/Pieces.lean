import Mathlib
import ProtocolGateway.Proofs.Gateway.Life

/-!
A call that goes on with nothing between its pieces, and attends to the plugins in the order in
which they were registered, does what starting or stopping the gateway does in one go. A request
that is sent with nothing between its pieces is submitted.
-/

namespace ProtocolGateway

open Gateway (Entries)

variable {g : Gateway} {done rest : Entries} {p : ProtocolName} {e : PluginEntry}

/-! One entry among the others -/

theorem keys_middle (done rest : Entries) (p : ProtocolName) (e : PluginEntry) :
    Table.keys (done ++ (p, e) :: rest) = Table.keys done ++ p :: Table.keys rest :=
  List.map_append

theorem absent_before (names : (Table.keys (done ++ (p, e) :: rest)).Nodup) :
    p ∉ Table.keys done ∧ p ∉ Table.keys rest := by
  rw [keys_middle, List.nodup_append, List.nodup_cons] at names
  exact ⟨fun member => names.2.2 p member p List.mem_cons_self rfl, names.2.1.1⟩

namespace Gateway

theorem entry?_middle (plugins : g.plugins = done ++ (p, e) :: rest)
    (names : (Table.keys (done ++ (p, e) :: rest)).Nodup) : g.entry? p = some e := by
  unfold entry?
  rw [plugins]
  exact Table.at?_of_mem names (List.mem_append_right _ List.mem_cons_self)

theorem updateEntry_middle (plugins : g.plugins = done ++ (p, e) :: rest)
    (names : (Table.keys (done ++ (p, e) :: rest)).Nodup) (f : PluginEntry → PluginEntry) :
    g.updateEntry p f = { g with plugins := done ++ (p, f e) :: rest } := by
  obtain ⟨before, after⟩ := absent_before names
  have updated : Table.update (done ++ (p, e) :: rest) p f = done ++ (p, f e) :: rest := by
    have split : Table.update (done ++ (p, e) :: rest) p f =
        Table.update done p f ++ Table.update ((p, e) :: rest) p f :=
      List.map_append
    rw [split, Table.update_of_absent before, Table.update_cons, if_pos rfl,
      Table.update_of_absent after]
  unfold updateEntry
  rw [plugins, updated]

/-! Sending -/

theorem concluded_again (exchanges : List Exchange) (k : Ticket) (x y : Resolution) :
    Traffic.concluded (Traffic.concluded exchanges k x) k y = Traffic.concluded exchanges k x := by
  have ended : (Traffic.concluded exchanges k x)[k]? ≠ some .waiting := by
    rw [Traffic.concluded_at]
    split
    · exact nofun
    · rename_i other
      exact fun waiting => other ⟨rfl, waiting⟩
  refine List.ext_getElem? fun j => ?_
  rw [Traffic.concluded_at, if_neg fun both => ended both.2]

theorem giveUp_await (g : Gateway) (p : ProtocolName) (s : Sequence) (r : Request) :
    (g.await p s).2.giveUp ⟨p, s, (g.await p s).1, r⟩ =
      (((g.await p s).2.release p s).conclude (g.await p s).1 .dropped).1 := by
  have pending : (g.await p s).2.pendingOf p = g.awaited p s := by
    have traffic := congrArg Traffic.pending (g.traffic_await g.sequencer p s)
    exact (congrFun traffic p).trans (Function.update_self ..)
  have waits := (g.await p s).2.pending?_eq p s
  unfold pending? at waits
  rw [pending] at waits
  have number : (g.await p s).1 = g.exchanges.length := rfl
  unfold giveUp
  dsimp only
  rw [waits, number]
  cases found : g.entry? p with
  | none =>
    have nothing : Table.at? (g.awaited p s) s = none := by
      unfold awaited
      rw [found]
      rfl
    rw [nothing]
  | some e =>
    have own : Table.at? (g.awaited p s) s = some g.exchanges.length := by
      rw [awaited_registered found, Table.at?_put, if_pos rfl]
    rw [own]
    dsimp only
    rw [conclude_eq, conclude_eq, conclude_eq]
    exact congrArg (fun xs => { (g.await p s).2.release p s with exchanges := xs })
      (concluded_again _ _ _ _)

/-- A plugin that sends a request with nothing between its pieces submits it. -/
theorem submit_in_one_go (g : Gateway) (p : ProtocolName) (r : Request) :
    g.submit p r =
      match g.beginSend p r with
      | (g, .ok x) => g.endSend x
      | (g, .error e) => (g, .error e) := by
  unfold submit beginSend
  cases g.admission with
  | error e => rfl
  | ok _ =>
    dsimp only
    cases r.assignSequence (g.sequencer.next r.headers.operation).1 with
    | error cause => rfl
    | ok sealed =>
      dsimp only
      unfold endSend
      dsimp only
      rcases traffic_send (Gateway.await { g with sequencer := _ } p _).2 p (.toA (.request sealed))
        with ⟨cause, failed⟩ | ⟨g', accepted, -⟩
      · rw [failed]
        dsimp only
        rw [giveUp_await]
      · rw [accepted]

end Gateway

namespace Service

def attending (es : Entries) : List Happening := (Table.keys es).map .attend

theorem run_cons (s : Service) (x : Happening) (xs : List Happening) :
    s.run (x :: xs) = (s.next x).run xs := rfl

theorem run_append (s : Service) (xs ys : List Happening) :
    s.run (xs ++ ys) = (s.run xs).run ys :=
  List.foldl_append

theorem run_idle {s : Service} (idle : s.call = none) {xs : List Happening}
    (pieces : ∀ x ∈ xs, Piece x) : s.run xs = s := by
  induction xs with
  | nil => rfl
  | cons x rest ih =>
    obtain ⟨piece, pieces⟩ := List.forall_mem_cons.mp pieces
    have ignored : s.next x = s := by
      cases x with
      | attend p | turn =>
        unfold next
        rw [idle]
      | register | start | stop | become | beginSend | endSend | event => exact piece.elim
    rw [run_cons, ignored, ih pieces]

theorem pieces_attending (es : Entries) : ∀ x ∈ attending es, Piece x := by
  intro x member
  obtain ⟨p, -, rfl⟩ := List.mem_map.mp member
  trivial

/-- The gateway with a call that has some plugins behind it and the others before it. -/
def amid (sends : List Sending) (g : Gateway) (log : List Notice) (done rest : Entries)
    (stage : CallStage) (order : List ProtocolName) (failures : Table ProtocolName PluginError)
    (cause : Option ManagerError) : Service :=
  ⟨{ g with plugins := done ++ rest }, sends,
    some ⟨stage, order, Table.keys rest, failures, cause⟩, log⟩

variable {sends : List Sending} {log : List Notice} {stage : CallStage} {order : List ProtocolName}
  {failures : Table ProtocolName PluginError} {cause : Option ManagerError}

theorem amid_passed (g : Gateway) (log : List Notice) (done rest : Entries)
    (x : ProtocolName × PluginEntry) :
    ⟨{ g with plugins := done ++ x :: rest }, sends,
      some ⟨stage, order, Table.keys rest, failures, cause⟩, log⟩ =
      amid sends g log (done ++ [x]) rest stage order failures cause := by
  unfold amid
  rw [List.append_assoc]
  rfl

theorem next_amid (g : Gateway) (log : List Notice) (done rest : Entries) (p : ProtocolName)
    (e : PluginEntry) :
    (amid sends g log done ((p, e) :: rest) stage order failures cause).next (.attend p) =
      (amid sends g log done ((p, e) :: rest) stage order failures cause).attend
        ⟨stage, order, p :: Table.keys rest, failures, cause⟩ p :=
  next_attend rfl List.mem_cons_self

theorem without_first (p : ProtocolName) (rest : List ProtocolName) :
    (⟨stage, order, p :: rest, failures, cause⟩ : LifeCall).without p =
      ⟨stage, order, rest, failures, cause⟩ := by
  unfold LifeCall.without
  rw [List.erase_cons_head]

theorem tookStep_first (p : ProtocolName) (rest : List ProtocolName)
    (failure : Option PluginError) :
    (⟨stage, order, p :: rest, failures, cause⟩ : LifeCall).tookStep p failure =
      ⟨stage, order, rest, failures ++ failure.toList.map fun e => (p, e), cause⟩ := by
  unfold LifeCall.tookStep
  rw [List.erase_cons_head]

/-! Locking -/

theorem attend_locked {s : Service} {c : LifeCall} (stage : c.stage = .locking) {p : ProtocolName}
    {g : Gateway} (locked : s.gateway.lockOne p = .ok g) :
    s.attend c p = { s with gateway := g, call := some (c.without p) } := by
  unfold attend
  rw [stage]
  dsimp only
  rw [locked]

theorem attend_locking (names : (Table.keys (done ++ (p, e) :: rest)).Nodup) :
    (amid sends g log done ((p, e) :: rest) .locking order failures cause).next (.attend p) =
      match e.plugin.settings.lock with
      | .error cause =>
        ⟨{ g with plugins := done ++ (p, e) :: rest }, sends, none,
          log ++ [.notStarted (.plugin p (.settings cause))]⟩
      | .ok settings =>
        amid sends g log (done ++ [(p, { e with plugin := e.plugin.withSettings settings })]) rest
          .locking order failures cause := by
  let g' : Gateway := { g with plugins := done ++ (p, e) :: rest }
  have entry : g'.entry? p = some e := Gateway.entry?_middle rfl names
  have set (plugin : Plugin) : g'.setPlugin p plugin =
      { g with plugins := done ++ (p, { e with plugin := plugin }) :: rest } :=
    Gateway.updateEntry_middle rfl names _
  cases locks : e.plugin.settings.lock with
  | error cause => exact next_unlocked rfl rfl List.mem_cons_self entry locks
  | ok settings =>
    have locked : g'.lockOne p = .ok (g'.setPlugin p (e.plugin.withSettings settings)) := by
      unfold Gateway.lockOne
      rw [entry]
      dsimp only
      rw [locks]
    rw [next_amid, attend_locked rfl locked, set, without_first]
    exact amid_passed g log done rest _

theorem names_passed {e' : PluginEntry} (names : (Table.keys (done ++ (p, e) :: rest)).Nodup) :
    (Table.keys ((done ++ [(p, e')]) ++ rest)).Nodup := by
  have same : Table.keys ((done ++ [(p, e')]) ++ rest) = Table.keys (done ++ (p, e) :: rest) := by
    unfold Table.keys
    simp
  rwa [same]

theorem run_locking (names : (Table.keys (done ++ rest)).Nodup) :
    (amid sends g log done rest .locking order failures cause).run (attending rest) =
      match Gateway.lockAll rest with
      | (rest, .ok ()) => amid sends g log (done ++ rest) [] .locking order failures cause
      | (rest, .error e) =>
        ⟨{ g with plugins := done ++ rest }, sends, none, log ++ [.notStarted e]⟩ := by
  induction rest generalizing done with
  | nil =>
    change amid sends g log done [] .locking order failures cause =
      amid sends g log (done ++ []) [] .locking order failures cause
    rw [List.append_nil]
  | cons first rest ih =>
    obtain ⟨p, e⟩ := first
    change ((amid sends g log done ((p, e) :: rest) .locking order failures cause).next
      (.attend p)).run (attending rest) = _
    rw [attend_locking names]
    unfold Gateway.lockAll
    cases locked : e.plugin.settings.lock with
    | error cause => exact run_idle rfl (pieces_attending rest)
    | ok settings =>
      dsimp only
      rw [ih (names_passed names)]
      cases result : Gateway.lockAll rest with
      | mk rest' outcome =>
        cases outcome <;> simp

/-! Steps of the plugins -/

def stepsOf (step : Plugin → Plugin × Except PluginError Unit) (es : Entries) : List Step :=
  es.map fun e => (e.1, failureOf (step e.2.plugin).2)

def Advances (stage : CallStage) (step : Plugin → Plugin × Except PluginError Unit)
    (notice : ProtocolName → Option PluginError → Notice) : Prop :=
  ∀ (s : Service) (c : LifeCall) (p : ProtocolName), c.stage = stage → s.attend c p =
    ⟨(s.gateway.advanceOne step p).1, s.sending,
      some (c.tookStep p (failureOf (s.gateway.advanceOne step p).2)),
      s.log ++ [notice p (failureOf (s.gateway.advanceOne step p).2)]⟩

theorem advances_starting : Advances .starting Plugin.start .pluginStarted := by
  intro s c p stage
  unfold attend
  rw [stage]

theorem advances_stopping : Advances .stopping Plugin.stop .pluginStopped := by
  intro s c p stage
  unfold attend
  rw [stage]

theorem run_advancing {step : Plugin → Plugin × Except PluginError Unit}
    {notice : ProtocolName → Option PluginError → Notice} (advances : Advances stage step notice)
    (names : (Table.keys (done ++ rest)).Nodup) :
    (amid sends g log done rest stage order failures cause).run (attending rest) =
      amid sends g (log ++ (stepsOf step rest).map fun x => notice x.1 x.2)
        (done ++ (Gateway.advanceAll step rest).1) [] stage order
        (failures ++ failuresOf (stepsOf step rest)) cause := by
  -- The plugins that are done stand in front, so the next one is the first of the rest.
  induction rest generalizing done log failures with
  | nil =>
    change amid sends g log done [] stage order failures cause =
      amid sends g (log ++ []) (done ++ []) [] stage order (failures ++ []) cause
    rw [List.append_nil, List.append_nil, List.append_nil]
  | cons first rest ih =>
    obtain ⟨p, e⟩ := first
    let g' : Gateway := { g with plugins := done ++ (p, e) :: rest }
    have entry : g'.entry? p = some e := Gateway.entry?_middle rfl names
    have set (plugin : Plugin) : g'.setPlugin p plugin =
        { g with plugins := done ++ (p, { e with plugin := plugin }) :: rest } :=
      Gateway.updateEntry_middle rfl names _
    have advanced : g'.advanceOne step p =
        ({ g with plugins := done ++ (p, { e with plugin := (step e.plugin).1 }) :: rest },
          (step e.plugin).2) := by
      unfold Gateway.advanceOne
      rw [entry]
      dsimp only
      rw [set]
    change ((amid sends g log done ((p, e) :: rest) stage order failures cause).next
      (.attend p)).run (attending rest) = _
    rw [next_amid, advances _ _ _ rfl]
    change run ⟨(g'.advanceOne step p).1, sends, some (LifeCall.tookStep _ p
      (failureOf (g'.advanceOne step p).2)),
      log ++ [notice p (failureOf (g'.advanceOne step p).2)]⟩ _ = _
    rw [advanced, tookStep_first]
    dsimp only
    rw [amid_passed, ih (names_passed names)]
    simp [Gateway.advanceAll, stepsOf, failuresOf]

theorem verdict_steps (step : Plugin → Plugin × Except PluginError Unit) {es : Entries}
    (names : (Table.keys es).Nodup) :
    verdict (Table.keys es) (failuresOf (stepsOf step es)) =
      failureOf (Gateway.advanceAll step es).2 := by
  induction es with
  | nil => rfl
  | cons first rest ih =>
    obtain ⟨p, e⟩ := first
    obtain ⟨new, others⟩ := List.nodup_cons.mp names
    unfold verdict at ih ⊢
    rw [Table.keys_cons, List.findSome?_cons]
    cases result : (step e.plugin).2 with
    | error cause => simp [Gateway.advanceAll, stepsOf, failuresOf, result, failureOf]
    | ok _ =>
      have silent :
          failuresOf (stepsOf step ((p, e) :: rest)) = failuresOf (stepsOf step rest) := by
        simp [stepsOf, failuresOf, result, failureOf]
      have nothing : Table.at? (failuresOf (stepsOf step rest)) p = none := by
        rw [Option.eq_none_iff_forall_ne_some]
        intro cause found
        obtain ⟨x, member, same⟩ := List.mem_map.mp (mem_failuresOf.mp (Table.mem_of_at? found))
        have name : x.1 = p := congrArg Prod.fst same
        have known := List.mem_map_of_mem (f := Prod.fst) member
        exact new (name ▸ known)
      rw [silent, nothing, Option.map_none]
      dsimp only
      rw [ih others]
      simp [Gateway.advanceAll, result]

/-! Closing -/

def onAll (f : PluginEntry → PluginEntry) (es : Entries) : Entries := es.map fun e => (e.1, f e.2)

theorem keys_onAll (f : PluginEntry → PluginEntry) (es : Entries) :
    Table.keys (onAll f es) = Table.keys es := by
  unfold Table.keys onAll
  rw [List.map_map]
  rfl

def closed (e : PluginEntry) : PluginEntry := { e with sink := e.sink.close }

theorem run_closing (names : (Table.keys (done ++ rest)).Nodup) :
    (amid sends g log done rest .closing order failures cause).run (attending rest) =
      amid sends g log (done ++ onAll closed rest) [] .closing order failures cause := by
  induction rest generalizing done with
  | nil =>
    change amid sends g log done [] .closing order failures cause =
      amid sends g log (done ++ []) [] .closing order failures cause
    rw [List.append_nil]
  | cons first rest ih =>
    obtain ⟨p, e⟩ := first
    let g' : Gateway := { g with plugins := done ++ (p, e) :: rest }
    have shut : g'.closeOne p =
        { g with plugins := done ++ (p, { e with sink := e.sink.close }) :: rest } :=
      Gateway.updateEntry_middle rfl names _
    change ((amid sends g log done ((p, e) :: rest) .closing order failures cause).next
      (.attend p)).run (attending rest) = _
    rw [next_amid]
    change run ⟨g'.closeOne p, sends, some (LifeCall.without _ p), log⟩ _ = _
    rw [shut, without_first, amid_passed, ih (names_passed names), List.append_assoc]
    rfl

/-! Clearing -/

def cleared (e : PluginEntry) : PluginEntry := { e with pending := [] }

def dropped (tickets : List Ticket) (exchanges : List Exchange) : List Exchange :=
  tickets.foldl (fun xs t => Traffic.concluded xs t .dropped) exchanges

def ticketsOf (es : Entries) : List Ticket := es.flatMap fun e => e.2.pending.map (·.2)

theorem dropPending_eq (g : Gateway) : g.dropPending =
    { { g with exchanges := dropped (ticketsOf g.plugins) g.exchanges } with
      plugins := onAll cleared g.plugins } := by
  unfold Gateway.dropPending
  dsimp only
  rw [Gateway.concludeAll_eq]
  rfl

theorem stop_eq (alive : g.phase ≠ .stopped) : g.stop =
    (Gateway.dropPending { { g with phase := .stopped } with
      plugins := (Gateway.advanceAll Plugin.stop (onAll closed g.plugins)).1 },
      (Gateway.advanceAll Plugin.stop (onAll closed g.plugins)).2) := by
  unfold Gateway.stop
  rw [if_neg alive]
  rfl

theorem run_clearing (names : (Table.keys (done ++ rest)).Nodup) :
    (amid sends g log done rest .clearing order failures cause).run (attending rest) =
      amid sends { g with exchanges := dropped (ticketsOf rest) g.exchanges } log
        (done ++ onAll cleared rest) [] .clearing order failures cause := by
  induction rest generalizing done g with
  | nil =>
    change amid sends g log done [] .clearing order failures cause =
      amid sends g log (done ++ []) [] .clearing order failures cause
    rw [List.append_nil]
  | cons first rest ih =>
    obtain ⟨p, e⟩ := first
    let g' : Gateway := { g with plugins := done ++ (p, e) :: rest }
    let mine := e.pending.map (·.2)
    have entry : g'.entry? p = some e := Gateway.entry?_middle rfl names
    have clear : g'.clearOne p =
        { { g with exchanges := dropped mine g.exchanges } with
          plugins := done ++ (p, { e with pending := [] }) :: rest } := by
      unfold Gateway.clearOne
      rw [entry]
      dsimp only [Option.map_some, Option.getD_some]
      rw [Gateway.concludeAll_eq]
      exact Gateway.updateEntry_middle rfl names _
    have both : dropped (ticketsOf rest) (dropped mine g.exchanges) =
        dropped (ticketsOf ((p, e) :: rest)) g.exchanges :=
      List.foldl_append.symm
    change ((amid sends g log done ((p, e) :: rest) .clearing order failures cause).next
      (.attend p)).run (attending rest) = _
    rw [next_amid]
    change run ⟨g'.clearOne p, sends, some (LifeCall.without _ p), log⟩ _ = _
    rw [clear, without_first, amid_passed, ih (names_passed names), both, List.append_assoc]
    rfl

/-! A call in one go -/

theorem turn_amid (g : Gateway) (log : List Notice) (done : Entries) :
    (amid sends g log done [] stage order failures cause).next .turn =
      (amid sends g log done [] stage order failures cause).turn
        ⟨stage, order, [], failures, cause⟩ :=
  next_turn rfl rfl

theorem enter_amid (all : order = Table.keys done) (g : Gateway) (log : List Notice)
    (next : CallStage) (fs : Table ProtocolName PluginError) (e : Option ManagerError) :
    (amid sends g log done [] stage order failures cause).enter next order fs e =
      amid sends g log [] done next order fs e := by
  subst all
  unfold amid enter
  rw [List.append_nil]
  rfl

theorem keys_advanceAll (step : Plugin → Plugin × Except PluginError Unit) (es : Entries) :
    Table.keys (Gateway.advanceAll step es).1 = Table.keys es := by
  induction es with
  | nil => rfl
  | cons first rest ih => exact congrArg (first.1 :: ·) ih

theorem keys_lockAll (es : Entries) : Table.keys (Gateway.lockAll es).1 = Table.keys es := by
  induction es with
  | nil => rfl
  | cons first rest ih =>
    obtain ⟨p, e⟩ := first
    unfold Gateway.lockAll
    split
    · rfl
    · exact congrArg (p :: ·) ih

def round (names : List ProtocolName) : List Happening := names.map .attend ++ [.turn]

def rounds (n : Nat) (names : List ProtocolName) : List Happening :=
  (List.replicate n (round names)).flatten

theorem run_rounds_succ (s : Service) (n : Nat) (names : List ProtocolName) :
    s.run (rounds (n + 1) names) = (s.run (round names)).run (rounds n names) :=
  run_append s (round names) (rounds n names)

theorem pieces_rounds (n : Nat) (names : List ProtocolName) :
    ∀ x ∈ rounds n names, Piece x := by
  intro x member
  obtain ⟨xs, taken, member⟩ := List.mem_flatten.mp member
  rw [List.eq_of_mem_replicate taken] at member
  rcases List.mem_append.mp member with attends | turns
  · obtain ⟨p, -, rfl⟩ := List.mem_map.mp attends
    trivial
  · rw [List.mem_singleton.mp turns]
    trivial

def StartTells : Except ManagerError Unit → Notice → Prop
  | .ok _, n => n = .startReturned none
  | .error e, n => n = .notStarted e ∨ n = .startReturned (some e)

theorem run_round (s : Service) (es : Entries) :
    s.run (round (Table.keys es)) = (s.run (attending es)).next .turn :=
  run_append s (attending es) [.turn]

theorem halt_in_one_go (names : (Table.keys g.plugins).Nodup) (alive : g.phase ≠ .stopped)
    (call : Option LifeCall) (log : List Notice) (cause : Option ManagerError) :
    ∃ told, ((⟨g, sends, call, log⟩ : Service).halt (Table.keys g.plugins) cause).run
        (rounds 3 (Table.keys g.plugins)) =
      ⟨g.stop.1, sends, none, log ++ told ++ [ending cause (failureOf g.stop.2)]⟩ := by
  let order := Table.keys g.plugins
  let es := onAll closed g.plugins
  let moved := Gateway.advanceAll Plugin.stop es
  let fs := failuresOf (stepsOf Plugin.stop es)
  let told := (stepsOf Plugin.stop es).map fun x => Notice.pluginStopped x.1 x.2
  let down : Gateway := { g with phase := .stopped }
  have order₂ : order = Table.keys es := (keys_onAll closed g.plugins).symm
  have order₃ : order = Table.keys moved.1 := order₂.trans (keys_advanceAll Plugin.stop es).symm
  have names₁ : (Table.keys ([] ++ g.plugins)).Nodup := names
  have names₂ : (Table.keys ([] ++ es)).Nodup := order₂ ▸ names
  have names₃ : (Table.keys ([] ++ moved.1)).Nodup := order₃ ▸ names
  have verdict : verdict order fs = failureOf moved.2 := by
    rw [order₂]
    exact verdict_steps Plugin.stop names₂
  -- One round a stage: the sinks are closed, the plugins stop, whoever waits is dropped.
  have begun : (⟨g, sends, call, log⟩ : Service).halt order cause =
      amid sends down log [] g.plugins .closing order [] cause := by
    unfold halt
    exact if_neg alive
  have closing : (amid sends down log [] g.plugins .closing order [] cause).run (round order) =
      amid sends down log [] es .stopping order [] cause := by
    rw [run_round, run_closing names₁, turn_amid]
    exact enter_amid order₂ down log .stopping [] cause
  have stopping : (amid sends down log [] es .stopping order [] cause).run (round order) =
      amid sends down (log ++ told) [] moved.1 .clearing order fs cause := by
    rw [order₂, run_round, run_advancing advances_stopping names₂, turn_amid]
    exact enter_amid (order₂.symm.trans order₃) down (log ++ told) .clearing fs cause
  have clearing : (amid sends down (log ++ told) [] moved.1 .clearing order fs cause).run
      (round order) =
        ⟨g.stop.1, sends, none, log ++ told ++ [ending cause (failureOf g.stop.2)]⟩ := by
    rw [congrArg round order₃, run_round, run_clearing names₃, turn_amid, stop_eq alive,
      dropPending_eq]
    unfold turn returns amid
    dsimp only
    rw [verdict, List.append_nil]
    rfl
  refine ⟨told, ?_⟩
  rw [run_rounds_succ, run_rounds_succ, run_rounds_succ, begun, closing, stopping, clearing]
  rfl

theorem starting_in_one_go (g : Gateway) (log : List Notice) {es : Entries}
    (names : (Table.keys es).Nodup) :
    let up : Gateway :=
      { { g with phase := .running } with plugins := (Gateway.advanceAll Plugin.start es).1 }
    ∃ told, (amid sends { g with phase := .running } log [] es .starting (Table.keys es) []
        none).run (rounds 4 (Table.keys es)) =
      match (Gateway.advanceAll Plugin.start es).2 with
      | .ok _ => ⟨up, sends, none, log ++ told ++ [.startReturned none]⟩
      | .error e => ⟨up.stop.1, sends, none, log ++ told ++ [.startReturned (some e)]⟩ := by
  intro up
  let moved := Gateway.advanceAll Plugin.start es
  let fs := failuresOf (stepsOf Plugin.start es)
  let told := (stepsOf Plugin.start es).map fun x => Notice.pluginStarted x.1 x.2
  let order := Table.keys es
  let started :=
    amid sends { g with phase := .running } (log ++ told) moved.1 [] .starting order fs none
  have all : (Table.keys ([] ++ es)).Nodup := names
  have same : Table.keys moved.1 = Table.keys es := keys_advanceAll Plugin.start es
  have gateway : started.gateway = up := by
    change ({ g with phase := .running, plugins := moved.1 ++ [] } : Gateway) = up
    rw [List.append_nil]
  have round₁ : (amid sends { g with phase := .running } log [] es .starting order [] none).run
      (round order) = started.turn ⟨.starting, order, [], fs, none⟩ := by
    rw [run_round, run_advancing advances_starting all]
    exact turn_amid _ _ _
  have verdict : verdict order fs = failureOf moved.2 := verdict_steps Plugin.start names
  rw [run_rounds_succ, round₁]
  unfold turn
  dsimp only
  rw [verdict]
  -- A failure hands over to the call to stop, for which three rounds are left.
  cases result : moved.2 with
  | ok _ =>
    refine ⟨told, ?_⟩
    have idle : (started.returns (.startReturned none)).call = none := rfl
    change (started.returns (.startReturned none)).run _ = _
    rw [run_idle idle (pieces_rounds 3 _)]
    unfold returns
    rw [gateway]
    rfl
  | error e =>
    have whole : started = ⟨up, sends, started.call, log ++ told⟩ := by
      rw [← gateway]
      rfl
    have alive : up.phase ≠ .stopped := by
      change ManagerPhase.running ≠ .stopped
      decide
    have names' : (Table.keys up.plugins).Nodup := same ▸ names
    obtain ⟨told', stopped⟩ := halt_in_one_go names' alive started.call (log ++ told) (some e)
    refine ⟨told ++ told', ?_⟩
    change (started.halt (Table.keys es) (some e)).run (rounds 3 (Table.keys es)) =
      ⟨up.stop.1, sends, none, log ++ (told ++ told') ++ [.startReturned (some e)]⟩
    rw [whole, ← same, ← List.append_assoc log]
    exact stopped

theorem next_locked {g : Gateway} (new : g.phase = .created) (log : List Notice) {es : Entries}
    {order : List ProtocolName} (same : order = Table.keys es) :
    (amid sends g log es [] .locking order [] none).next .turn =
      amid sends { g with phase := .running } log [] es .starting order [] none := by
  rw [turn_amid]
  unfold turn
  exact (if_pos new).trans (enter_amid same { g with phase := .running } log .starting [] none)

theorem locking_in_one_go (g : Gateway) (log : List Notice) (new : g.phase = .created)
    (names : (Table.keys g.plugins).Nodup) :
    ∃ told n, StartTells g.start.2 n ∧
      ((⟨g, sends, none, log⟩ : Service).enter .locking (Table.keys g.plugins) [] none).run
          (rounds 5 (Table.keys g.plugins)) =
        ⟨g.start.1, sends, none, log ++ told ++ [n]⟩ := by
  have all : (Table.keys ([] ++ g.plugins)).Nodup := names
  have begun : (⟨g, sends, none, log⟩ : Service).enter .locking (Table.keys g.plugins) [] none =
      amid sends g log [] g.plugins .locking (Table.keys g.plugins) [] none := rfl
  have same : Table.keys (Gateway.lockAll g.plugins).1 = Table.keys g.plugins :=
    keys_lockAll g.plugins
  unfold Gateway.start
  rw [begun, run_rounds_succ, run_round, run_locking all, if_neg (not_not.mpr new)]
  cases result : Gateway.lockAll g.plugins with
  | mk es locked =>
    rw [result] at same
    cases locked with
    | error e =>
      refine ⟨[], .notStarted e, Or.inl rfl, ?_⟩
      let refused : Service := ⟨{ g with plugins := es }, sends, none, log ++ [.notStarted e]⟩
      have idle : refused.call = none := rfl
      have pieces : ∀ x ∈ .turn :: rounds 4 (Table.keys g.plugins), Piece x :=
        List.forall_mem_cons.mpr ⟨trivial, pieces_rounds 4 _⟩
      change refused.run (.turn :: rounds 4 (Table.keys g.plugins)) = _
      rw [run_idle idle pieces, List.append_nil]
    | ok _ =>
      obtain ⟨told, started⟩ :=
        starting_in_one_go g log (same ▸ names : (Table.keys es).Nodup)
      change ∃ told n, _ ∧
        ((amid sends g log es [] .locking (Table.keys g.plugins) [] none).next .turn).run _ = _
      rw [next_locked new log same.symm, ← same, started]
      dsimp only
      cases (Gateway.advanceAll Plugin.start es).2 with
      | ok _ => exact ⟨told, _, rfl, rfl⟩
      | error e => exact ⟨told, _, Or.inr rfl, rfl⟩

/-- A call to start, with nothing between its pieces. -/
theorem start_in_one_go {s : Service} (idle : s.call = none)
    (names : (Table.keys s.gateway.plugins).Nodup) :
    ∃ told n, StartTells s.gateway.start.2 n ∧
      s.run (.start (Table.keys s.gateway.plugins) :: rounds 5 (Table.keys s.gateway.plugins)) =
        ⟨s.gateway.start.1, s.sending, none, s.log ++ told ++ [n]⟩ := by
  obtain ⟨g, sends, call, log⟩ := s
  cases idle
  have free : (⟨g, sends, none, log⟩ : Service).Free (Table.keys g.plugins) :=
    ⟨rfl, List.Perm.refl _⟩
  change ∃ told n, _ ∧ (if (⟨g, sends, none, log⟩ : Service).Free (Table.keys g.plugins) then
    (⟨g, sends, none, log⟩ : Service).start (Table.keys g.plugins) else _).run
      (rounds 5 (Table.keys g.plugins)) = _
  rw [if_pos free]
  unfold start
  by_cases new : g.phase = .created
  · rw [if_pos new]
    exact locking_in_one_go g log new names
  · unfold Gateway.start
    refine ⟨[], .notStarted (.invalidState g.phase), ?_, ?_⟩
    · rw [if_pos new]
      exact Or.inl rfl
    · rw [if_neg new, if_pos new, run_idle rfl (pieces_rounds 5 _), List.append_nil]
      rfl

/-- A call to stop, with nothing between its pieces. -/
theorem stop_in_one_go {s : Service} (idle : s.call = none)
    (names : (Table.keys s.gateway.plugins).Nodup) :
    ∃ told, s.run (.stop (Table.keys s.gateway.plugins) ::
        rounds 3 (Table.keys s.gateway.plugins)) =
      ⟨s.gateway.stop.1, s.sending, none,
        s.log ++ told ++ [.stopReturned (failureOf s.gateway.stop.2)]⟩ := by
  obtain ⟨g, sends, call, log⟩ := s
  cases idle
  have free : (⟨g, sends, none, log⟩ : Service).Free (Table.keys g.plugins) :=
    ⟨rfl, List.Perm.refl _⟩
  change ∃ told, (if (⟨g, sends, none, log⟩ : Service).Free (Table.keys g.plugins) then
    (⟨g, sends, none, log⟩ : Service).halt (Table.keys g.plugins) none else _).run _ = _
  rw [if_pos free]
  by_cases already : g.phase = .stopped
  · refine ⟨[], ?_⟩
    have stop : g.stop = (g, .ok ()) := if_pos already
    have halted : (⟨g, sends, none, log⟩ : Service).halt (Table.keys g.plugins) none =
        ⟨g, sends, none, log ++ [.stopReturned none]⟩ := if_pos already
    rw [halted, stop, run_idle rfl (pieces_rounds 3 _), List.append_nil]
    rfl
  · exact halt_in_one_go names already none log none

end Service

end ProtocolGateway
