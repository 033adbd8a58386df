import Mathlib
import ProtocolGateway.Proofs.Gateway.Changing
import ProtocolGateway.Proofs.Gateway.Opening

/-!
The gateway serves its callers as the map that its targets make up. One request takes it from rest to
rest, and so do all of them, one after the other.
-/

namespace ProtocolGateway

namespace Gateway

variable {g b : Gateway} {f : Frame} {st : Store} {horizon : Nat}

/-! One request -/

theorem Stocked.served (stocked : g.Stocked horizon st) {u : ResourceUri} (reread : u.Reread)
    {content : Octets} (there : st.content u = some content) : st.serves (.of u.scheme) = true := by
  rw [stocked.holds.serves]
  rw [stocked.holds.content u reread] at there
  by_contra unserved
  obtain ⟨t, target, _⟩ := Option.bind_eq_some_iff.mp there
  obtain ⟨o, look, target⟩ := Option.bind_eq_some_iff.mp target
  have client := (stocked.sound.clients _ o look).mpr (target ▸ rfl)
  unfold Frame.serves at unserved
  rw [look] at unserved
  exact unserved client

section Asked

variable {p : ProtocolName} {r : Request} {ic : Interconnection}

theorem Asked.follow (asked : Asked g p r ic b) (hop : Hop) :
    b.follow (.ok (some hop)) = b.enqueue (.forward hop) := asked.calm.forward hop

theorem Asked.keys (asked : Asked g p r ic b) : b.keys = g.keys := congrArg Frame.keys asked.frame

theorem Asked.keeps (asked : Asked g p r ic b) (keeps : b.frame.Keeps f) : g.frame.Keeps f := by
  rw [asked.frame] at keeps
  exact ⟨keeps.now, keeps.known⟩

theorem Resting.unnamed (resting : g.Resting horizon st) (asked : Asked g p r g.interconnection b)
    {cause : ProtocolError} (unreadable : ResourceUri.parse r.headers.path = .error cause)
    (orderly : (b.follow (.ok (some (g.keys.turned (.error ((g.numbered r).refusal cause)) p
      (g.traffic.draw r).1)))).traffic.Orderly) :
    (b.follow (.ok (some (g.keys.turned (.error ((g.numbered r).refusal cause)) p
      (g.traffic.draw r).1)))).Settles
      (Rested horizon (st.serve r).1 g.exchanges.length (st.serve r).2 b.frame) := by
  obtain ⟨same, answers⟩ := st.serve_unnamed unreadable
  have rests : b.Resting horizon st := by
    refine ⟨resting.asked asked rfl (.refl _), fun u reread observes => ?_⟩
    rw [asked.frame] at observes
    rw [asked.stage]
    exact resting.heeded u reread observes
  rw [same]
  rw [asked.follow, ← asked.keys] at orderly ⊢
  refine rests.turned asked.begun (fun a given => ?_) orderly
  rw [answers a given]
  rfl

theorem Resting.named (resting : g.Resting horizon st) (asked : Asked g p r ic b) {uri : ResourceUri}
    (named : ResourceUri.parse r.headers.path = .ok uri) (reread : uri.Reread)
    (lasts : ∀ d, r.headers.maxAge = some d → d.Lasts horizon) {out : Option Hop}
    (asks : Interconnection.Asks g.keys g.interconnection (g.numbered r) p uri ic out)
    (orderly : (b.follow (.ok out)).traffic.Orderly) :
    ∃ f, g.frame.Keeps f ∧ (b.follow (.ok out)).Settles
      (Rested horizon (st.serve r).1 g.exchanges.length (st.serve r).2 f) := by
  have stocked : b.Stocked horizon st := resting.asked asked asks.ttl asks.less
  have keeps : g.frame.Keeps b.frame := asked.keeps ⟨rfl, fun _ known => known⟩
  have heeded (u : ResourceUri) (other : u.Reread) (observes : b.frame.Observes u)
      (kept : r.headers.operation = .unobserve → out = some (g.keys.onward (g.numbered r) p uri) →
        u ≠ uri) : b.interconnection.subscriptions.Observed u.text := by
    rw [asked.frame] at observes
    rw [asked.stage]
    refine asks.observers u.text (resting.heeded u other observes) fun ends on same => ?_
    exact kept ends on (other.eq_of_text reread same.symm)
  -- Three ways end at the interconnection stage; the last one needs a target that serves.
  cases asks.way with
  | cached hit reads held =>
    have rests : b.Resting horizon st :=
      ⟨stocked, fun u other observes => heeded u other observes fun _ on => nomatch on⟩
    have there := resting.cached uri reread hit held
    rw [st.serve_read named (resting.served reread there) reads there]
    rw [asked.follow, ← asked.keys] at orderly ⊢
    refine ⟨b.frame, keeps, rests.turned asked.begun (fun a given => ?_) orderly⟩
    cases given
    rfl
  | acknowledged ends =>
    have rests : b.Resting horizon st :=
      ⟨stocked, fun u other observes => heeded u other observes fun _ on => nomatch on⟩
    have ends : r.headers.operation = .unobserve := ends
    rw [st.serve_family (ends ▸ rfl)]
    rw [asked.follow, ← asked.keys] at orderly ⊢
    exact ⟨b.frame, keeps, rests.turned asked.begun (fun a none => nomatch none) orderly⟩
  | joined observes already =>
    have rests : b.Resting horizon st :=
      ⟨stocked, fun u other observes => heeded u other observes fun _ on => nomatch on⟩
    have observes : r.headers.operation = .observe := observes
    rw [st.serve_family (observes ▸ rfl)]
    exact ⟨b.frame, keeps, .rest asked.calm.still ⟨orderly, rests, fun a none => (nomatch none), rfl⟩⟩
  | onward waits first last =>
    rw [asked.follow, ← asked.keys] at orderly ⊢
    rw [← asked.stage] at waits first
    cases serves : b.frame.serves (.of uri.scheme) with
    | false =>
      obtain ⟨same, answers⟩ := st.serve_unserved named (stocked.holds.serves ▸ serves)
      have rests : b.countForwarded.Resting horizon st := by
        refine ⟨stocked.counted, fun u other observes => heeded u other observes fun _ _ here => ?_⟩
        exact stocked.sound.staffed.unserved serves (here ▸ observes)
      have begun : Begun b.countForwarded p (g.traffic.draw r).1 g.exchanges.length :=
        asked.begun.of_traffic rfl
      obtain ⟨detail, leads⟩ := leads_unserved asked.calm (g.numbered r) p uri serves
      rw [same]
      refine ⟨b.frame, keeps, leads.settles _ ?_⟩
      refine rests.unserved begun reread (g.numbered r) detail serves (fun expected => waits ?_) answers
        (leads.orderly orderly)
      by_contra family
      rw [st.serve_family (r := r) (eq_true_of_ne_false family)] at expected
      cases expected
    | true =>
      have leads := leads_served asked.calm (g.numbered r) p uri serves
      have begun : Begun b.countForwarded p (g.traffic.draw r).1 g.exchanges.length :=
        asked.begun.of_traffic rfl
      obtain ⟨f, same, settles⟩ := stocked.counted.told (r := g.numbered r) begun reread serves waits
        (fun u other observes kept => heeded u other observes fun ends _ => kept ends)
        (fun observe => (first observe).2) lasts (leads.orderly orderly)
      rw [st.serve_served named (stocked.holds.serves ▸ serves)]
      exact ⟨f, asked.keeps same, leads.settles _ settles⟩

end Asked

end Gateway

/-- A request that has no number yet, and whose resource is found again by the route of an answer. -/
structure Call.Proper (c : Call) : Prop where
  fresh : c.request.sequence = 0
  named : ∀ u, ResourceUri.parse c.request.headers.path = .ok u →
    Web.SchemeClass.of u.scheme ≠ .other → u.Reread

theorem Call.Proper.reread {c : Call} (proper : c.Proper) {u : ResourceUri}
    (named : ResourceUri.parse c.request.headers.path = .ok u) : u.Reread := by
  by_cases other : Web.SchemeClass.of u.scheme = .other
  · exact ResourceUri.reread_other named other
  · exact proper.named u named other

namespace Gateway

variable {g : Gateway} {st : Store} {horizon : Nat}

inductive Comes (g : Gateway) (p : ProtocolName) (r : Request) : Interconnection → Option Hop → Prop where
  | unnamed (cause : ProtocolError) (unreadable : ResourceUri.parse r.headers.path = .error cause) :
      Comes g p r g.interconnection
        (some (g.keys.turned (.error ((g.numbered r).refusal cause)) p (g.traffic.draw r).1))
  | named (uri : ResourceUri) (named : ResourceUri.parse r.headers.path = .ok uri)
      {ic : Interconnection} {out : Option Hop}
      (asks : Interconnection.Asks g.keys g.interconnection (g.numbered r) p uri ic out) :
      Comes g p r ic out

theorem Calm.submitted (calm : g.Calm)
    (tickets : ∀ p s t, Table.at? (g.pendingOf p) s = some t → t < g.exchanges.length)
    (staffed : g.frame.Staffed) (orderly : g.traffic.Orderly) {c : Call} (proper : c.Proper)
    (known : (g.frame.outlook c.origin).isSome) :
    ∃ h s b ic out, g.submit c.origin c.request = (h, .ok (s, g.exchanges.length)) ∧
      g.interconnection.onRequest g.instant (g.keys.asking (g.numbered c.request) c.origin 2) =
        (ic, .ok out) ∧
      Comes g c.origin c.request ic out ∧ Asked g c.origin c.request ic b ∧
      Leads h (b.follow (.ok out)) ∧ (b.follow (.ok out)).traffic.Orderly := by
  obtain ⟨o, look⟩ := Option.isSome_iff_exists.mp known
  obtain ⟨e, registered, _⟩ := Option.map_eq_some_iff.mp look
  have number : (g.traffic.draw c.request).1 ≠ 0 := by
    have drawn := (g.sequencer.next_eq c.request.headers.operation).1
    change (g.sequencer.next c.request.headers.operation).1 ≠ 0
    rw [drawn]
    exact staffed.numbers _
  have sequenced : (g.numbered c.request).isSequenced = true := by
    simp [Request.isSequenced, numbered, number]
  -- Whether or not it names a resource, the request comes out of the stage without a fault.
  obtain ⟨ic, out, crossing, comes⟩ : ∃ ic out,
      g.interconnection.onRequest g.instant (g.keys.asking (g.numbered c.request) c.origin 2) =
        (ic, .ok out) ∧ Comes g c.origin c.request ic out := by
    cases named : ResourceUri.parse c.request.headers.path with
    | error cause =>
      exact ⟨_, _, Interconnection.onRequest_refused orderly.token c.origin sequenced named,
        .unnamed cause named⟩
    | ok uri =>
      obtain ⟨ic, out, crossing, asks⟩ : ∃ ic out,
          g.interconnection.onRequest g.instant (g.keys.asking (g.numbered c.request) c.origin 2) =
            (ic, .ok out) ∧ _ :=
        Interconnection.onRequest_asks orderly.token orderly.keyed c.origin sequenced named
      exact ⟨ic, out, crossing, .named uri named asks⟩
  obtain ⟨h, b, submitted, asked, leads⟩ := leads_submitted calm tickets registered proper.fresh number
    crossing
  have after := orderly.step (g.step_submit c.origin c.request)
  rw [submitted] at after
  exact ⟨h, _, b, ic, out, submitted, crossing, comes, asked, leads, leads.orderly after⟩

/-- A request takes the gateway from rest to rest, and its caller is given what the map says. -/
theorem Resting.submitted (resting : g.Resting horizon st) (orderly : g.traffic.Orderly) {c : Call}
    (proper : c.Proper) (known : (g.frame.outlook c.origin).isSome)
    (lasts : ∀ d, c.request.headers.maxAge = some d → d.Lasts horizon) :
    ∃ h s k f, g.submit c.origin c.request = (h, .ok (s, k)) ∧ g.frame.Keeps f ∧
      h.Settles (Rested horizon (st.serve c.request).1 k (st.serve c.request).2 f) := by
  obtain ⟨h, s, b, ic, out, submitted, _, comes, asked, leads, after⟩ :=
    resting.calm.submitted resting.tickets resting.sound.staffed orderly proper known
  cases comes with
  | unnamed cause unreadable =>
    exact ⟨h, s, _, b.frame, submitted, asked.keeps ⟨rfl, fun _ known => known⟩,
      leads.settles _ (resting.unnamed asked unreadable after)⟩
  | named uri named asks =>
    obtain ⟨f, keeps, settles⟩ := resting.named asked named (proper.reread named) lasts asks after
    exact ⟨h, s, _, f, submitted, keeps, leads.settles _ settles⟩

/-! One request after the other -/

theorem Resting.pass (resting : g.Resting horizon st) {ms : Nat} (early : g.now + ms ≤ horizon) :
    (g.pass ms).Resting horizon st := by
  have sound : (g.pass ms).frame.Sound horizon := by
    refine ⟨⟨resting.sound.ready.running, resting.sound.ready.names, resting.sound.ready.listens⟩,
      resting.sound.numbers, early, resting.sound.clients, resting.sound.targets⟩
  have holds : (g.pass ms).frame.Holds st := ⟨resting.holds.serves, resting.holds.content⟩
  exact ⟨⟨⟨sound.ready, resting.calm.still, resting.calm.empty⟩, sound, holds, resting.tickets,
    resting.cached, resting.lasting⟩, resting.heeded⟩

theorem Resting.serves {calls : List Call} (resting : g.Resting horizon st)
    (orderly : g.traffic.Orderly) (proper : ∀ c ∈ calls, c.Proper)
    (known : ∀ c ∈ calls, (g.frame.outlook c.origin).isSome)
    (lasts : ∀ c ∈ calls, ∀ d, c.request.headers.maxAge = some d → d.Lasts horizon)
    (early : g.now + total (·.pause) calls ≤ horizon) : g.Serves st calls := by
  induction calls generalizing g st with
  | nil => trivial
  | cons c rest ih =>
    rw [total_cons, ← Nat.add_assoc] at early
    have here : c ∈ c :: rest := List.mem_cons_self
    have later {c' : Call} (member : c' ∈ rest) : c' ∈ c :: rest := List.mem_cons_of_mem c member
    obtain ⟨h, s, k, f, submitted, keeps, settles⟩ :=
      resting.submitted orderly (proper c here) (known c here) (lasts c here)
    refine ⟨h, s, k, submitted, settles.mono fun h' rested => ⟨rested.gives, ?_⟩⟩
    have now : h'.now = g.now := by
      have same : h'.frame.now = g.frame.now := by
        rw [rested.frame]
        exact keeps.now
      exact same
    have early' : h'.now + c.pause + total (·.pause) rest ≤ horizon := now ▸ early
    have calls' := ih (g := h'.pass c.pause) (rested.resting.pass (by omega)) rested.orderly
      (fun c' member => proper c' (later member)) (fun c' member => ?_)
      (fun c' member => lasts c' (later member)) early'
    · exact calls'
    · change (h'.frame.outlook c'.origin).isSome
      rw [rested.frame]
      exact keeps.known _ (known c' (later member))

/-- Whatever is given a lifetime before the last of the calls ends on the clock. -/
structure Lasting (g : Gateway) (calls : List Call) : Prop where
  kept : ∀ d, g.interconnection.cache.ttl? = some d → d.Lasts (g.now + total (·.pause) calls)
  answered : ∀ p e t, g.entry? p = some e → e.plugin = .target t →
    ∀ d, t.maxAge = some d → d.Lasts (g.now + total (·.pause) calls)
  asked : ∀ c ∈ calls, ∀ d, c.request.headers.maxAge = some d →
    d.Lasts (g.now + total (·.pause) calls)

/-- A gateway with targets and origins is to its callers the map that its targets make up, with a
cache and without. -/
theorem started_serves_as_map {config : ManagerConfig} {cache : ReplyCache} {plugins : List Plugin}
    {g₀ g : Gateway} {calls : List Call} (configured : cache.Configured)
    (plain : ∀ x ∈ plugins, x.Plain)
    (registered : plugins.foldlM register (new config cache) = .ok g₀)
    (started : g₀.start = (g, .ok ())) (proper : ∀ c ∈ calls, c.Proper)
    (known : ∀ c ∈ calls, (g.entry? c.origin).isSome) (lasting : g.Lasting calls) :
    g.Serves g.store calls := by
  have wired := (wired_new config cache).registerAll plain registered
  obtain ⟨orderly, resting⟩ := resting_started configured wired started lasting.kept lasting.answered
  refine resting.serves orderly proper (fun c member => ?_) lasting.asked (Nat.le_refl _)
  change ((g.entry? c.origin).map PluginEntry.outlook).isSome
  rw [Option.isSome_map]
  exact known c member

def sensorPlugins : List Plugin :=
  [.origin (.new (.of "http")), .target ((MemoryTarget.new (.of "coap")).insert "[::1]" "/t" [50, 49])]

def sensorCache : ReplyCache := .memory (.new (.ofSeconds 30) 10)

def sensorWired : Gateway :=
  match sensorPlugins.foldlM register (new .standard sensorCache) with
  | .ok g => g
  | .error _ => new .standard .off

/-- The second READ of the new content comes when the cache has forgotten it. -/
def sensorCalls : List Call :=
  [⟨.of "http", .new .observe "/coap/[::1]/t", 0⟩, ⟨.of "http", .new .read "coap://[::1]/t", 20⟩,
    ⟨.of "http", (Request.new .update "/coap/[::1]/t").withPayload [50, 50], 0⟩,
    ⟨.of "http", .new .read "/coap/[::1]/t", 40000⟩, ⟨.of "http", .new .read "/coap/[::1]/t", 0⟩,
    ⟨.of "http", .new .delete "/coap/[::1]/t", 0⟩, ⟨.of "http", .new .read "coap://[::1]/t", 0⟩]

theorem sensor_plain : ∀ x ∈ sensorPlugins, x.Plain := by
  rintro _ (_ | ⟨_, _ | ⟨_, ⟨⟩⟩⟩)
  · trivial
  · rfl

theorem sensor_registered :
    sensorPlugins.foldlM register (new .standard sensorCache) = .ok sensorWired := rfl

theorem sensor_started : sensorWired.start = (sensorWired.start.1, .ok ()) := rfl

theorem proper_of_coap {c : Call} (fresh : c.request.sequence = 0)
    (named : (ResourceUri.parse c.request.headers.path).toOption.map (·.scheme) = some "coap") :
    c.Proper := by
  refine ⟨fresh, fun u parsed special => absurd ?_ special⟩
  rw [parsed] at named
  have scheme : u.scheme = "coap" := Option.some.inj named
  rw [scheme]
  decide

theorem sensor_served : sensorWired.start.1.Serves sensorWired.start.1.store sensorCalls := by
  have named : ∀ c ∈ sensorCalls,
      (ResourceUri.parse c.request.headers.path).toOption.map (·.scheme) = some "coap" := by
    decide +kernel
  have fresh : ∀ c ∈ sensorCalls, c.request.sequence = 0 := by decide +kernel
  have proper (c : Call) (member : c ∈ sensorCalls) : c.Proper :=
    proper_of_coap (fresh c member) (named c member)
  have known : ∀ c ∈ sensorCalls, (Gateway.entry? sensorWired.start.1 c.origin).isSome := by decide +kernel
  have ageless : ∀ x ∈ sensorWired.start.1.plugins,
      x.2.plugin.target?.bind MemoryTarget.maxAge = none := by
    decide +kernel
  have asked : ∀ c ∈ sensorCalls, c.request.headers.maxAge = none := by decide +kernel
  have lasting : sensorWired.start.1.Lasting sensorCalls := by
    refine ⟨fun d ttl => ?_, fun p e t found plugin d age => ?_, fun c member d age => ?_⟩
    · cases ttl
      unfold Span.Lasts
      decide +kernel
    · have none := ageless _ (Table.mem_of_at? found)
      rw [plugin] at none
      cases none.symm.trans age
    · cases (asked c member).symm.trans age
  exact started_serves_as_map (.memory _ _) sensor_plain sensor_registered sensor_started proper known
    lasting

end Gateway

/-! A name that is not found again -/

namespace Gateway

def driveTarget : MemoryTarget :=
  (MemoryTarget.new (.of "file")).insert "[::1]" "/C:/x" [50, 49]

def driveGateway : Gateway :=
  match [Plugin.origin (.new (.of "http")), .target driveTarget].foldlM register
      (new .standard .off) with
  | .ok g => g.start.1
  | .error _ => new .standard .off

def driveRead : Call := ⟨.of "http", .new .read "file://[::1]//C:/x", 0⟩

/-- The target answers with the content, but the drive letter takes the host's place in the name that
its answer goes by, and the caller waits for ever. -/
theorem drive_letter_unserved : ¬driveGateway.Serves driveGateway.store [driveRead] := by
  have answer : (driveGateway.store.serve driveRead.request).2 = some (.value [50, 49]) := by
    decide +kernel
  have accepted : (driveGateway.submit driveRead.origin driveRead.request).2 = .ok (1, 0) := by
    decide +kernel
  have still : (runFirst 8 (driveGateway.submit driveRead.origin driveRead.request).1).tasks = [] := by
    decide +kernel
  have waiting : (runFirst 8
      (driveGateway.submit driveRead.origin driveRead.request).1).exchanges[0]? = some .waiting := by
    decide +kernel
  rintro ⟨g', s, t, submitted, settles⟩
  rw [submitted] at accepted still waiting
  cases accepted
  have gives := (settles.of_runFirst 8 still).1 _ answer (.ofMillis 0)
  unfold wait at gives
  rw [waiting] at gives
  exact gives

end Gateway

end ProtocolGateway
