import Mathlib
import ProtocolGateway.Proofs.Gateway.Asking
import ProtocolGateway.Proofs.Gateway.Settling

/-!
Gateways between two requests. Nothing is under way, the targets make up a map, and nothing that the
cache holds is out of date; after one errand all this is so again.
-/

namespace ProtocolGateway

/-! Lifetimes -/

/-- Whatever begins up to the horizon and lasts this long ends on the clock. -/
def Span.Lasts (d : Span) (horizon : Nat) : Prop := ((Instant.ofMillis horizon).after? d).isSome

theorem Span.Lasts.after {d : Span} {horizon now : Nat} (lasts : d.Lasts horizon)
    (early : now ≤ horizon) : ((Instant.ofMillis now).after? d).isSome := by
  have sooner : (Instant.ofMillis now).nanos + d.nanos ≤ (Instant.ofMillis horizon).nanos + d.nanos :=
    Nat.add_le_add_right (Nat.mul_le_mul_right _ early) _
  unfold Lasts Instant.after? at *
  split at lasts
  · rename_i ends
    rw [if_pos (sooner.trans_lt ends)]
    rfl
  · cases lasts

/-- A target that answers, and whose lifetimes the clock can hold. -/
structure MemoryTarget.Sound (horizon : Nat) (t : MemoryTarget) : Prop where
  linked : t.linked = true
  heeds : t.Heeds
  lasting : ∀ d, t.maxAge = some d → d.Lasts horizon

namespace Gateway

/-- Plugins that are targets wherever they have a client side. -/
structure Frame.Staffed (f : Frame) : Prop where
  ready : f.Ready
  numbers : ∀ observes, f.sequencer.upcoming observes ≠ 0
  clients : ∀ p o, f.outlook p = some o → (o.hasClient = true ↔ o.target.isSome)
  targets : ∀ p o t, f.outlook p = some o → o.target = some t → t.linked = true ∧ t.Heeds

structure Frame.Sound (horizon : Nat) (f : Frame) : Prop where
  ready : f.Ready
  numbers : ∀ observes, f.sequencer.upcoming observes ≠ 0
  early : f.now ≤ horizon
  clients : ∀ p o, f.outlook p = some o → (o.hasClient = true ↔ o.target.isSome)
  targets : ∀ p o t, f.outlook p = some o → o.target = some t → t.Sound horizon

theorem Frame.Sound.staffed {f : Frame} {horizon : Nat} (sound : f.Sound horizon) : f.Staffed :=
  ⟨sound.ready, sound.numbers, sound.clients, fun p o t found target =>
    ⟨(sound.targets p o t found target).linked, (sound.targets p o t found target).heeds⟩⟩

/-- The map is what the targets make up, as far as names are found again. -/
structure Frame.Holds (f : Frame) (st : Store) : Prop where
  serves : st.serves = f.serves
  content : ∀ u : ResourceUri, u.Reread → st.content u = f.contentOf u

/-- Nothing is under way in the gateway, and to its callers it is the map. -/
structure Stocked (horizon : Nat) (st : Store) (g : Gateway) : Prop where
  calm : g.Calm
  sound : g.frame.Sound horizon
  holds : g.frame.Holds st
  tickets : ∀ p s t, Table.at? (g.pendingOf p) s = some t → t < g.exchanges.length
  cached : ∀ u : ResourceUri, u.Reread → ∀ kept, g.interconnection.cache.Holds u.text kept →
    st.content u = some kept.payload.data
  lasting : ∀ d, g.interconnection.cache.ttl? = some d → d.Lasts horizon

structure Resting (horizon : Nat) (st : Store) (g : Gateway) : Prop extends Stocked horizon st g where
  heeded : ∀ u : ResourceUri, u.Reread → g.frame.Observes u →
    g.interconnection.subscriptions.Observed u.text

/-- The gateway is at rest again, the caller has its answer, and plugins and clock are as they were. -/
structure Rested (horizon : Nat) (st : Store) (k : Ticket) (answer : Option Answer) (f : Frame)
    (g : Gateway) : Prop where
  orderly : g.traffic.Orderly
  resting : g.Resting horizon st
  gives : ∀ a, answer = some a → g.Gives k a
  frame : g.frame = f

variable {g : Gateway} {e : Errand} {t : Task}

/-! From rest to rest -/

theorem Calm.burden (calm : g.Calm) (a : Task → Nat) (b : Parcel Outbound Inbound → Nat) :
    g.burden a b = 0 :=
  burden_at_rest (fun p e found _ waiting => absurd (calm.empty p e found) waiting)
    calm.ready.listens calm.ready.names calm.still a b

theorem Calm.coming (calm : g.Calm) (t : Task) (kind : Message → Bool) :
    (g.enqueue t).coming kind = t.brings kind := by
  unfold Gateway.coming
  rw [burden_enqueue, calm.burden, Nat.zero_add]

theorem Calm.carrying (calm : g.Calm) (t : Task) (p : ProtocolName) (s : Sequence) :
    (g.enqueue t).carrying p s = carried p s t := by
  unfold Gateway.carrying
  rw [burden_enqueue, calm.burden, Nat.zero_add]

theorem Calm.goes (calm : g.Calm) (orderly : (g.enqueue t).traffic.Orderly)
    (moves : e.Moves g.frame t) : e.Goes g.frame (g.enqueue t) := by
  refine ⟨orderly, rfl, fun p entry found _ waiting => ?_, ⟨fun t' member => ?_, ?_⟩⟩
  · exact absurd (calm.empty p entry found) waiting
  · have alone : t' ∈ g.tasks ++ [t] := member
    rw [calm.still] at alone
    cases List.mem_singleton.mp alone
    exact moves
  · intro p entry found x waiting
    rw [calm.empty p entry found] at waiting
    cases waiting

theorem Begun.caller (begun : Begun g e.protocol e.sequence e.ticket) (calm : g.Calm)
    (reaches : 0 < carried e.protocol e.sequence t ∨
      0 < g.interconnection.subscriptions.waits e.key e.protocol e.sequence ∧
        0 < t.brings fun _ => true) :
    e.Answered (g.enqueue t) ∨ e.Waits (g.enqueue t) ∧
      (0 < (g.enqueue t).carrying e.protocol e.sequence ∨
        0 < (g.enqueue t).interconnection.subscriptions.waits e.key e.protocol e.sequence ∧
          0 < (g.enqueue t).coming fun _ => true) := by
  rw [calm.carrying, calm.coming]
  exact Or.inr ⟨⟨begun.waiting, begun.recorded⟩, reaches⟩

end Gateway

namespace Errand

variable {g : Gateway} {e : Errand} {f : Gateway.Frame} {st : Store} {horizon : Nat}

theorem Answered.gives (answered : e.Answered g) {a : Answer} (answer : e.answer = some a) :
    g.Gives e.ticket a := by
  obtain ⟨x, resolved, fits⟩ := answered
  intro limit
  unfold Gateway.wait
  rw [resolved]
  exact fits a answer

theorem Goes.calm (goes : e.Goes f g) (ready : f.Ready) (still : g.tasks = []) : g.Calm := by
  have frame := goes.frame
  refine ⟨frame ▸ ready, still, fun p entry found => ?_⟩
  by_contra waiting
  have awake := goes.awake p entry found (ready.listens p entry.outlook ?_) waiting
  · rw [still] at awake
    cases awake
  · rw [← frame]
    exact congrArg (Option.map PluginEntry.outlook) found

theorem Runs.rested (runs : e.Runs f g) (honest : e.Honest f) (sound : f.Sound horizon)
    (holds : f.Holds st) (lasting : ∀ d, e.lifetime = some d → d.Lasts horizon) :
    g.Settles (Gateway.Rested horizon st e.ticket e.answer f) := by
  refine runs.settles sound.ready honest fun h runs still => ?_
  obtain ⟨answered, cached⟩ := runs.rest sound.ready still
  have frame := runs.frame
  refine ⟨runs.orderly, ⟨⟨runs.calm sound.ready still, frame ▸ sound, frame ▸ holds,
    runs.stands.tickets, fun u reread kept held => ?_, fun d ttl => ?_⟩, frame ▸ runs.stands.heeded⟩,
    fun a answer => ?_, frame⟩
  · rw [holds.content u reread]
    exact cached u reread kept held
  · exact lasting d (runs.stands.ttl ▸ ttl)
  · exact (answered (answer ▸ rfl)).gives answer

end Errand

namespace Gateway

variable {g : Gateway} {e : Errand} {f : Frame} {st : Store} {horizon : Nat} {t : Task}

theorem Resting.errand (resting : g.Resting horizon st)
    (begun : Begun g e.protocol e.sequence e.ticket)
    (lifetime : g.interconnection.cache.ttl? = e.lifetime) (honest : e.Honest g.frame)
    (orderly : (g.enqueue t).traffic.Orderly) (moves : e.Moves g.frame t)
    (reaches : e.answer.isSome → 0 < carried e.protocol e.sequence t ∨
      0 < g.interconnection.subscriptions.waits e.key e.protocol e.sequence ∧
        0 < t.brings fun _ => true) :
    (g.enqueue t).Settles (Rested horizon st e.ticket e.answer g.frame) := by
  have stands : e.Stands g.frame (g.enqueue t) := by
    constructor
    case caller => exact fun expected => begun.caller resting.calm (reaches expected)
    case tickets => exact begun.tickets
    case alone => exact begun.alone
    case cached =>
      intro u reread kept held
      left
      rw [← resting.holds.content u reread]
      exact resting.cached u reread kept held
    case heeded => exact resting.heeded
    case ttl => exact lifetime
  refine Errand.Runs.rested ⟨resting.calm.goes orderly moves, stands⟩ honest resting.sound resting.holds ?_
  exact fun d ttl => resting.lasting d (lifetime.trans ttl)

/-! Requests -/

theorem Frame.Staffed.drawn (staffed : f.Staffed) (o : Operation) :
    Frame.Staffed { f with sequencer := (f.sequencer.next o).2 } := by
  refine ⟨⟨staffed.ready.running, staffed.ready.names, staffed.ready.listens⟩, fun observes => ?_,
    staffed.clients, staffed.targets⟩
  rw [(f.sequencer.next_eq o).2 observes]
  split
  · exact Sequencer.advance_ne_zero _ _
  · exact staffed.numbers observes

theorem Stocked.asked (stocked : g.Stocked horizon st) {p : ProtocolName} {r : Request}
    {ic : Interconnection} {b : Gateway} (asked : Asked g p r ic b)
    (ttl : ic.cache.ttl? = g.interconnection.cache.ttl?)
    (less : ReplyCache.Shrinks g.interconnection.cache ic.cache) : b.Stocked horizon st := by
  constructor
  case calm => exact asked.calm
  case sound =>
    have staffed := stocked.sound.staffed.drawn r.headers.operation
    rw [asked.frame]
    exact ⟨staffed.ready, staffed.numbers, stocked.sound.early, staffed.clients, stocked.sound.targets⟩
  case holds =>
    rw [asked.frame]
    exact ⟨stocked.holds.serves, stocked.holds.content⟩
  case tickets => exact asked.begun.tickets
  case cached =>
    intro u reread kept held
    rw [asked.stage] at held
    exact stocked.cached u reread kept (less _ _ held)
  case lasting =>
    rw [asked.stage, ttl]
    exact stocked.lasting

theorem Stocked.counted (stocked : g.Stocked horizon st) : g.countForwarded.Stocked horizon st :=
  ⟨stocked.calm.counted, stocked.sound, stocked.holds, stocked.tickets, stocked.cached, stocked.lasting⟩

theorem Resting.turned (resting : g.Resting horizon st) {p : ProtocolName} {s : Sequence} {k : Ticket}
    (begun : Begun g p s k) {m : Message} {answer : Option Answer}
    (suits : ∀ a, answer = some a → a.Fits (resolutionOf m s).outcome)
    (orderly : (g.enqueue (.forward (g.keys.turned m p s))).traffic.Orderly) :
    (g.enqueue (.forward (g.keys.turned m p s))).Settles (Rested horizon st k answer g.frame) := by
  -- Nobody says anything but the stage itself.
  let e : Errand := ⟨p, s, k, answer, p, "", fun _ => False, g.interconnection.cache.ttl?⟩
  have honest : e.Honest g.frame := by
    constructor
    case unnamed => exact fun d ttl => (resting.lasting d ttl).after resting.sound.early
    case about | suits | truth | lasting | unchanged | unheeded => exact fun _ said => said.elim
  have load : carried p s (.forward (g.keys.turned m p s)) = 1 := by
    have load := Keyring.load_turned (k := g.keys) (m := m) (q := p) (u := s) (p := p) (s := s)
    rw [if_pos ⟨rfl, rfl⟩] at load
    exact load
  have moves : e.Moves g.frame (.forward (g.keys.turned m p s)) := .turns m p _ 2 suits
  exact resting.errand begun rfl honest orderly moves fun _ => Or.inl (load ▸ Nat.zero_lt_one)

theorem Frame.Staffed.untargeted (staffed : f.Staffed) {u : ResourceUri}
    (unserved : f.serves (.of u.scheme) = false) : f.targetOf u = none := by
  by_contra targeted
  obtain ⟨t, target⟩ := Option.ne_none_iff_exists'.mp targeted
  obtain ⟨o, look, target⟩ := Option.bind_eq_some_iff.mp target
  have client : o.hasClient = true := (staffed.clients _ o look).mpr (target ▸ rfl)
  unfold Frame.serves at unserved
  rw [look] at unserved
  cases client.symm.trans unserved

theorem Frame.Staffed.unserved (staffed : f.Staffed) {u : ResourceUri}
    (unserved : f.serves (.of u.scheme) = false) : ¬f.Observes u := by
  rintro ⟨t, target, _⟩
  rw [staffed.untargeted unserved] at target
  cases target

theorem Resting.unserved (resting : g.Resting horizon st) {p : ProtocolName} {s : Sequence} {k : Ticket}
    (begun : Begun g p s k) {uri : ResourceUri} (reread : uri.Reread) (r : Request) (detail : String)
    (unserved : g.frame.serves (.of uri.scheme) = false) {answer : Option Answer}
    (waits : answer.isSome → 0 < g.interconnection.subscriptions.waits uri.text p s)
    (suits : ∀ a, answer = some a → a = .rejected .unavailablePlugin)
    (orderly : (g.enqueue (.forward ⟨.manager, .interconnection, g.keys.wrap (.error (unavailable
      (r.rerouted uri.authority uri.pathAndQuery) (.of uri.scheme) detail)) (.of uri.scheme)⟩)).traffic.Orderly) :
    (g.enqueue (.forward ⟨.manager, .interconnection, g.keys.wrap (.error (unavailable
      (r.rerouted uri.authority uri.pathAndQuery) (.of uri.scheme) detail)) (.of uri.scheme)⟩)).Settles
      (Rested horizon st k answer g.frame) := by
  obtain ⟨x, refusal⟩ : ∃ x, unavailable (r.rerouted uri.authority uri.pathAndQuery) (.of uri.scheme)
      detail = x := ⟨_, rfl⟩
  have reason : x.reason = .unavailablePlugin := refusal ▸ rfl
  have about : Message.isAbout (.error x) (.of uri.scheme) uri.text :=
    refusal ▸ ⟨rfl, uri, reread, rfl⟩
  rw [refusal] at orderly ⊢
  let e : Errand := ⟨p, s, k, answer, .of uri.scheme, uri.text, (· = .error x),
    g.interconnection.cache.ttl?⟩
  -- The only thing to be said is the error, so it is all that has to be right.
  have honest : e.Honest g.frame := by
    constructor
    case about =>
      rintro _ rfl
      exact about
    case suits =>
      rintro _ rfl a given
      rw [suits a given]
      exact reason
    case truth | lasting => exact fun _ said => nomatch said
    case unnamed => exact fun d ttl => (resting.lasting d ttl).after resting.sound.early
    case unchanged =>
      rintro _ _ _ rfl
      rfl
    case unheeded =>
      rintro _ _ _ u other same
      rw [other.eq_of_text reread same]
      exact resting.sound.staffed.unserved unserved
  have moves : e.Moves g.frame (.forward ⟨.manager, .interconnection,
      g.keys.wrap (.error x) (.of uri.scheme)⟩) := .arrives (.error x) rfl
  exact resting.errand begun rfl honest orderly moves fun expected =>
    Or.inr ⟨waits expected, Nat.zero_lt_one⟩

end Gateway

end ProtocolGateway
