import Mathlib
import ProtocolGateway.Gateway.Lifecycle
import ProtocolGateway.Proofs.Gateway.Resting

/-!
A gateway that has just been started. Plugins have been registered and nothing else has happened, so
it is at rest, and the map that it is to its callers is what its targets were given.
-/

namespace ProtocolGateway

inductive ReplyCache.Configured : ReplyCache → Prop where
  | off : Configured .off
  | memory (ttl : Span) (size : Nat) : Configured (.memory (.new ttl size))

theorem ReplyCache.Configured.empty {c : ReplyCache} (configured : c.Configured) (key : String)
    (kept : Reply) : ¬c.Holds key kept := by
  cases configured with
  | off => exact id
  | memory ttl size =>
    rintro ⟨e, member, _⟩
    cases member

namespace Plugin

def Plain : Plugin → Prop
  | .target t => t.observed = []
  | .origin _ => True
  | .scripted _ => False

def Linked : Plugin → Prop
  | .target t => t.linked = true ∧ t.observed = []
  | .origin _ => True
  | .scripted _ => False

variable {plugin : Plugin}

theorem Plain.link (plain : plugin.Plain) : plugin.link.Linked := by
  cases plugin with
  | target t => exact ⟨rfl, plain⟩
  | origin o => trivial
  | scripted s => cases plain

theorem Linked.withSettings (linked : plugin.Linked) (settings : Settings) :
    (plugin.withSettings settings).Linked := by
  cases plugin <;> exact linked

theorem Linked.client (linked : plugin.Linked) : plugin.hasClient = true ↔ plugin.target?.isSome := by
  cases plugin with
  | target t => exact ⟨fun _ => rfl, fun _ => rfl⟩
  | origin o => exact ⟨fun none => (nomatch none), fun none => nomatch none⟩
  | scripted s => cases linked

theorem Linked.start (linked : plugin.Linked) : plugin.start.1.Linked := by
  cases plugin <;> exact linked

end Plugin

/-- The entry of a plugin before anything has come to it. -/
structure PluginEntry.Fresh (e : PluginEntry) : Prop where
  pending : e.pending = []
  sink : e.sink = .wired
  linked : e.plugin.Linked

theorem PluginEntry.Fresh.target {e : PluginEntry} (fresh : e.Fresh) {t : MemoryTarget}
    (target : e.outlook.target = some t) : t.linked = true ∧ t.observed = [] := by
  have linked := fresh.linked
  rw [Plugin.eq_target target] at linked
  exact linked

namespace Gateway

/-! Registering -/

/-- A gateway in which nothing has happened but registrations. -/
structure Wired (config : ManagerConfig) (cache : ReplyCache) (g : Gateway) : Prop where
  whole : g = { new config cache with plugins := g.plugins }
  traffic : g.traffic = (new config cache).traffic
  names : (Table.keys g.plugins).Nodup
  fresh : ∀ x ∈ g.plugins, x.2.Fresh

variable {config : ManagerConfig} {cache : ReplyCache} {g g₀ : Gateway}

theorem Wired.register (wired : Wired config cache g) {plugin : Plugin} (plain : plugin.Plain)
    {g' : Gateway} (registered : g.register plugin = .ok g') : Wired config cache g' := by
  have traffic := (traffic_register registered).trans wired.traffic
  obtain ⟨_, _, _, rfl⟩ := register_ok registered
  refine ⟨?_, traffic, Table.nodup_put wired.names _ _, fun x member => ?_⟩
  · rw [wired.whole]
  · rcases Table.mem_put member with rfl | old
    · exact ⟨rfl, rfl, plain.link⟩
    · exact wired.fresh x old

theorem Wired.registerAll (wired : Wired config cache g) {plugins : List Plugin}
    (plain : ∀ x ∈ plugins, x.Plain) (registered : plugins.foldlM Gateway.register g = .ok g₀) :
    Wired config cache g₀ := by
  induction plugins generalizing g with
  | nil =>
    cases registered
    exact wired
  | cons x rest ih =>
    rw [List.foldlM_cons] at registered
    cases first : g.register x with
    | error e =>
      rw [first] at registered
      cases registered
    | ok g' =>
      rw [first] at registered
      exact ih (wired.register (plain x List.mem_cons_self) first)
        (fun y member => plain y (List.mem_cons_of_mem x member)) registered

theorem wired_new (config : ManagerConfig) (cache : ReplyCache) : Wired config cache (new config cache) :=
  ⟨rfl, rfl, List.nodup_nil, fun _ member => nomatch member⟩

/-! Starting -/

theorem lockAll_fresh {es : Entries} (fresh : ∀ x ∈ es, x.2.Fresh) :
    Table.keys (lockAll es).1 = Table.keys es ∧ ∀ x ∈ (lockAll es).1, x.2.Fresh := by
  induction es with
  | nil => exact ⟨rfl, fresh⟩
  | cons x rest ih =>
    obtain ⟨p, e⟩ := x
    have here : e.Fresh := fresh _ List.mem_cons_self
    obtain ⟨names, later⟩ := ih fun y member => fresh y (List.mem_cons_of_mem _ member)
    unfold lockAll
    split
    · exact ⟨rfl, fresh⟩
    · dsimp only
      rw [Table.keys_cons, names]
      refine ⟨rfl, fun y member => ?_⟩
      rcases List.mem_cons.mp member with rfl | there
      · exact ⟨here.pending, here.sink, here.linked.withSettings _⟩
      · exact later y there

theorem startAll_fresh {es : Entries} (fresh : ∀ x ∈ es, x.2.Fresh) :
    Table.keys (advanceAll Plugin.start es).1 = Table.keys es ∧
      ∀ x ∈ (advanceAll Plugin.start es).1, x.2.Fresh := by
  induction es with
  | nil => exact ⟨rfl, fresh⟩
  | cons x rest ih =>
    obtain ⟨p, e⟩ := x
    have here : e.Fresh := fresh _ List.mem_cons_self
    obtain ⟨names, later⟩ := ih fun y member => fresh y (List.mem_cons_of_mem _ member)
    unfold advanceAll
    dsimp only
    rw [Table.keys_cons, names]
    refine ⟨rfl, fun y member => ?_⟩
    rcases List.mem_cons.mp member with rfl | there
    · exact ⟨here.pending, here.sink, here.linked.start⟩
    · exact later y there

theorem start_fresh (fresh : ∀ x ∈ g₀.plugins, x.2.Fresh) (started : g₀.start = (g, .ok ())) :
    g = { g₀ with phase := .running, plugins := g.plugins } ∧
      Table.keys g.plugins = Table.keys g₀.plugins ∧ ∀ x ∈ g.plugins, x.2.Fresh := by
  obtain ⟨names, locked⟩ := lockAll_fresh fresh
  unfold start at started
  split at started
  · cases started
  · generalize lockAll g₀.plugins = result at started names locked
    obtain ⟨entries, outcome⟩ := result
    cases outcome with
    | error e => cases started
    | ok _ =>
      dsimp only at started names locked
      obtain ⟨names', running⟩ := startAll_fresh locked
      generalize advanceAll Plugin.start entries = result at started names' running
      obtain ⟨entries', outcome⟩ := result
      cases outcome with
      | error e => cases started
      | ok _ =>
        cases started
        exact ⟨rfl, names'.trans names, running⟩

/-- A gateway that has been started, before anything has come to it. -/
structure Opened (cache : ReplyCache) (g : Gateway) : Prop where
  orderly : g.traffic.Orderly
  calm : g.Calm
  staffed : g.frame.Staffed
  tickets : ∀ p s t, Table.at? (g.pendingOf p) s = some t → t < g.exchanges.length
  stage : g.interconnection = .new (Keyring.minted 0).interconnection cache
  now : g.now = 0
  unobserved : ∀ u, ¬g.frame.Observes u

section Fresh

variable (fresh : ∀ x ∈ g.plugins, x.2.Fresh)
include fresh

theorem fresh_entry {p : ProtocolName} {e : PluginEntry} (found : g.entry? p = some e) : e.Fresh :=
  fresh _ (Table.mem_of_at? found)

theorem fresh_outlook {p : ProtocolName} {o : Outlook} (found : g.frame.outlook p = some o) :
    ∃ e, g.entry? p = some e ∧ e.outlook = o ∧ e.Fresh := by
  obtain ⟨e, there, same⟩ := Option.map_eq_some_iff.mp found
  exact ⟨e, there, same, fresh_entry fresh there⟩

theorem ready_of_fresh (running : g.phase = .running) (names : (Table.keys g.plugins).Nodup) :
    g.frame.Ready := by
  refine ⟨running, names, fun p o found => ?_⟩
  obtain ⟨e, _, rfl, own⟩ := fresh_outlook fresh found
  unfold PluginEntry.outlook
  rw [own.sink]
  rfl

theorem staffed_of_fresh (ready : g.frame.Ready) (first : g.sequencer = .new) : g.frame.Staffed := by
  refine ⟨ready, fun observes => ?_, fun p o found => ?_, fun p o t found target => ?_⟩
  · change g.sequencer.upcoming observes ≠ 0
    rw [first]
    cases observes <;> decide
  · obtain ⟨e, _, rfl, own⟩ := fresh_outlook fresh found
    exact own.linked.client
  · obtain ⟨e, _, rfl, own⟩ := fresh_outlook fresh found
    obtain ⟨links, nobody⟩ := own.target target
    refine ⟨links, fun key observed => ?_⟩
    rw [nobody] at observed
    cases observed

theorem pendingOf_fresh (p : ProtocolName) : g.pendingOf p = [] := by
  unfold pendingOf
  cases there : g.entry? p with
  | none => rfl
  | some e => exact (fresh_entry fresh there).pending

theorem unobserved_of_fresh (u : ResourceUri) : ¬g.frame.Observes u := by
  rintro ⟨t, target, observed⟩
  obtain ⟨o, found, target⟩ := Option.bind_eq_some_iff.mp target
  obtain ⟨e, _, rfl, own⟩ := fresh_outlook fresh found
  unfold MemoryTarget.isObserved at observed
  rw [(own.target target).2] at observed
  cases observed

end Fresh

theorem Wired.opened (wired : Wired config cache g₀) (started : g₀.start = (g, .ok ())) :
    g.Opened cache := by
  obtain ⟨whole, names, fresh⟩ := start_fresh wired.fresh started
  rw [wired.whole] at whole
  have orderly : g.traffic.Orderly := by
    have before : g₀.traffic.Orderly := wired.traffic ▸ History.orderly_new config cache
    have after := before.step g₀.step_start
    rw [started] at after
    exact after
  have ready : g.frame.Ready := by
    refine ready_of_fresh fresh ?_ ?_
    · rw [whole]
    · rw [names]
      exact wired.names
  constructor
  case orderly => exact orderly
  case calm =>
    refine ⟨ready, ?_, fun p e found => ?_⟩
    · rw [whole]
      rfl
    · rw [(fresh_entry fresh found).sink]
      rfl
  case staffed =>
    refine staffed_of_fresh fresh ready ?_
    rw [whole]
    rfl
  case tickets =>
    intro p s t found
    rw [pendingOf_fresh fresh] at found
    cases found
  case stage =>
    rw [whole]
    rfl
  case now =>
    rw [whole]
    rfl
  case unobserved => exact unobserved_of_fresh fresh

theorem resting_started {horizon : Nat} (configured : cache.Configured)
    (wired : Wired config cache g₀) (started : g₀.start = (g, .ok ()))
    (kept : ∀ d, g.interconnection.cache.ttl? = some d → d.Lasts horizon)
    (answered : ∀ p e t, g.entry? p = some e → e.plugin = .target t →
      ∀ d, t.maxAge = some d → d.Lasts horizon) :
    g.traffic.Orderly ∧ g.Resting horizon g.store := by
  have opened := wired.opened started
  have staffed := opened.staffed
  have sound : g.frame.Sound horizon := by
    refine ⟨staffed.ready, staffed.numbers, opened.now.le.trans (Nat.zero_le _), staffed.clients,
      fun p o t found target => ?_⟩
    obtain ⟨linked, heeds⟩ := staffed.targets p o t found target
    obtain ⟨e, there, rfl⟩ := Option.map_eq_some_iff.mp found
    exact ⟨linked, heeds, answered p e t there (Plugin.eq_target target)⟩
  refine ⟨opened.orderly, ⟨⟨opened.calm, sound, ⟨rfl, fun _ _ => rfl⟩, opened.tickets, ?_, kept⟩, ?_⟩⟩
  · intro u _ reply held
    rw [opened.stage] at held
    exact absurd held (configured.empty _ _)
  · exact fun u _ observes => absurd observes (opened.unobserved u)

end Gateway

end ProtocolGateway
