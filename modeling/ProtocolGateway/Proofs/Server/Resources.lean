import Mathlib
import ProtocolGateway.Proofs.CanonicalKey
import ProtocolGateway.Proofs.Gateway.Serving
import ProtocolGateway.Proofs.Server.Assembling

/-!
Resources that a configuration puts into its targets. Once the gateway has been started each can be read
by the name that its key spells, provided that the key spells it as the gateway does: a resource is stored
under its key as it is, and looked for under the authority and the path of a canonical name.
-/

namespace ProtocolGateway

/-! Lifetimes -/

/-- Milliseconds that fit into a word are nowhere near the last reading of the clock. -/
theorem Span.lasts_of_millis {d : Span} {horizon : Nat} (short : d.nanos ≤ Word.max64 * 1000000)
    (early : horizon ≤ Word.max64) : d.Lasts horizon := by
  have begin : (Instant.ofMillis horizon).nanos ≤ Word.max64 * 1000000 :=
    Nat.mul_le_mul_right 1000000 early
  have room : Word.max64 * 1000000 + Word.max64 * 1000000 < Instant.limit := by decide
  unfold Lasts Instant.after?
  rw [if_pos ((Nat.add_le_add begin short).trans_lt room)]
  rfl

namespace MemoryTarget

theorem admits_default (key : String) (spec : SettingSpec) (value : SettingValue)
    (found : declared.spec? key = some spec) (default : spec.default = some value) :
    spec.Admits value := by
  rw [spec_declared] at found
  split at found
  · cases found
    cases default
    refine ⟨rfl, ?_⟩
    rintro i min max same range
    cases same
    cases range
    exact ⟨le_refl 0, by decide⟩
  · split at found
    · cases found
      cases default
      exact ⟨rfl, fun i _ _ same => nomatch same⟩
    · cases found

variable {s : Settings}

theorem Settled.most (settled : Settled s) {secs : Int} (age : s.getInteger maxAgeKey = some secs) :
    secs ≤ 86400 := by
  unfold Settings.getInteger at age
  cases value : s.get maxAgeKey with
  | none =>
    rw [value] at age
    cases age
  | some stored =>
    obtain ⟨spec, found, kind, bounds⟩ := settled.sound.get_admitted admits_default value
    rw [spec_declared, if_pos rfl] at found
    cases found
    rw [value] at age
    cases stored with
    | integer i =>
      cases age
      exact (bounds secs 0 86400 rfl rfl).2
    | bool | float | text => cases kind

theorem Settled.lasts (settled : Settled s) {t : MemoryTarget}
    (same : t.settings = { s with locked := true }) {horizon : Nat} (early : horizon ≤ Word.max64)
    {d : Span} (age : t.maxAge = some d) : d.Lasts horizon := by
  have read : t.settings.getInteger maxAgeKey = s.getInteger maxAgeKey := by
    rw [same]
    rfl
  unfold MemoryTarget.maxAge at age
  rw [read] at age
  cases secs : s.getInteger maxAgeKey with
  | none =>
    rw [secs] at age
    cases age
  | some i =>
    rw [secs] at age
    dsimp only at age
    split at age
    · cases age
      have most := settled.most secs
      have day : (Span.ofSeconds i.toNat).nanos ≤ 86400 * 1000000000 :=
        Nat.mul_le_mul_right 1000000000 (by omega)
      exact Span.lasts_of_millis (day.trans (by decide)) early
    · cases age

end MemoryTarget

theorem CacheConfig.lasts_ttl {c : CacheConfig} (fits : c.defaultTtlMillis ≤ Word.max64)
    {horizon : Nat} (early : horizon ≤ Word.max64) {d : Span} (ttl : c.replyCache.ttl? = some d) :
    d.Lasts horizon := by
  unfold CacheConfig.replyCache at ttl
  split at ttl
  · cases ttl
    exact Span.lasts_of_millis (Nat.mul_le_mul_right 1000000 fits) early
  · cases ttl

theorem CacheConfig.configured (c : CacheConfig) : c.replyCache.Configured := by
  unfold CacheConfig.replyCache
  split
  · exact .memory _ _
  · exact .off

/-! Starting -/

def Settings.Complete (s : Settings) : Prop := s.lock = .ok { s with locked := true }

def PluginEntry.locked (e : PluginEntry) : PluginEntry :=
  { e with plugin := e.plugin.withSettings { e.plugin.settings with locked := true } }

def PluginEntry.started (e : PluginEntry) : PluginEntry := { e with plugin := e.plugin.start.1 }

theorem Plugin.Linked.start_ok {plugin : Plugin} (linked : plugin.Linked) : plugin.start.2 = .ok () := by
  cases plugin with
  | target t | origin o => rfl
  | scripted s => cases linked

namespace Gateway

theorem lockAll_complete {es : Entries} (complete : ∀ x ∈ es, x.2.plugin.settings.Complete) :
    lockAll es = (es.map fun x => (x.1, x.2.locked), .ok ()) := by
  induction es with
  | nil => rfl
  | cons x rest ih =>
    obtain ⟨p, e⟩ := x
    obtain ⟨here, later⟩ := List.forall_mem_cons.mp complete
    have lock : e.plugin.settings.lock = _ := here
    unfold lockAll
    rw [lock, ih later]
    rfl

theorem startAll_linked {es : Entries} (linked : ∀ x ∈ es, x.2.plugin.Linked) :
    advanceAll Plugin.start es = (es.map fun x => (x.1, x.2.started), .ok ()) := by
  induction es with
  | nil => rfl
  | cons x rest ih =>
    obtain ⟨p, e⟩ := x
    obtain ⟨here, later⟩ := List.forall_mem_cons.mp linked
    have start : e.plugin.start.2 = .ok () := here.start_ok
    unfold advanceAll
    dsimp only
    rw [ih later, start]
    rfl

def opened (g : Gateway) : Gateway :=
  { g with phase := .running, plugins := g.plugins.map fun x => (x.1, x.2.locked.started) }

variable {g : Gateway}

theorem start_complete (created : g.phase = .created)
    (complete : ∀ x ∈ g.plugins, x.2.plugin.settings.Complete)
    (linked : ∀ x ∈ g.plugins, x.2.plugin.Linked) : g.start = (g.opened, .ok ()) := by
  have links : ∀ x ∈ g.plugins.map fun x => (x.1, x.2.locked), x.2.plugin.Linked := by
    intro x member
    obtain ⟨y, there, rfl⟩ := List.mem_map.mp member
    exact (linked y there).withSettings _
  unfold start
  rw [if_neg (by simp [created]), lockAll_complete complete]
  dsimp only
  rw [startAll_linked links, List.map_map]
  rfl

theorem entry?_opened (g : Gateway) (p : ProtocolName) :
    g.opened.entry? p = (g.entry? p).map fun e => e.locked.started :=
  Table.at?_map g.plugins (fun e => e.locked.started) p

theorem outlook_opened (g : Gateway) (p : ProtocolName) :
    g.opened.frame.outlook p = (g.entry? p).map fun e => e.locked.started.outlook := by
  change (g.opened.entry? p).map PluginEntry.outlook = _
  rw [entry?_opened, Option.map_map]
  rfl

end Gateway

/-! What is built can be started -/

namespace PluginConfig

variable {c : PluginConfig} {name : String} {plugin : Plugin}

theorem Asks.complete (asked : c.Asks name plugin) : plugin.link.settings.Complete := by
  cases asked with
  | target kind s settled =>
    have full := Settings.validate_ok settled.full
    change s.Complete
    unfold Settings.Complete Settings.lock
    rw [settled.unlocked, full]
    rfl
  | origin kind => exact rfl

theorem Asks.plain (asked : c.Asks name plugin) : plugin.Plain := by
  cases asked with
  | target => exact rfl
  | origin => exact trivial

end PluginConfig

namespace Assembly

variable {c : Config} {plugins : List Plugin}

theorem Built.from_mem {xs : List (String × PluginConfig)} (built : Built xs plugins) {plugin : Plugin}
    (member : plugin ∈ plugins) : ∃ x ∈ xs, x.2.Asks x.1 plugin := by
  induction built with
  | nil => cases member
  | cons here _ ih =>
    rcases List.mem_cons.mp member with rfl | later
    · exact ⟨_, List.mem_cons_self, (PluginConfig.build_ok here).2⟩
    · obtain ⟨x, there, asked⟩ := ih later
      exact ⟨x, List.mem_cons_of_mem _ there, asked⟩

theorem Built.mem_wired (built : Built c.plugins plugins) {x : ProtocolName × PluginEntry}
    (member : x ∈ (wired c plugins).plugins) :
    ∃ (own : PluginConfig) (name : String) (plugin : Plugin), own.Asks name plugin ∧
      x = (plugin.protocol, ⟨plugin.link, [], .wired⟩) := by
  obtain ⟨plugin, there, same⟩ := List.mem_map.mp member
  obtain ⟨y, _, asked⟩ := built.from_mem there
  exact ⟨y.2, y.1, plugin, asked, same.symm⟩

theorem Built.start (built : Built c.plugins plugins) :
    (wired c plugins).start = ((wired c plugins).opened, .ok ()) := by
  apply Gateway.start_complete rfl
  · intro x member
    obtain ⟨_, _, _, asked, rfl⟩ := built.mem_wired member
    exact asked.complete
  · intro x member
    obtain ⟨_, _, _, asked, rfl⟩ := built.mem_wired member
    exact asked.plain.link

theorem Built.resting (built : Built c.plugins plugins) (names : (c.plugins.map nameOf).Nodup)
    (fits : c.cache.defaultTtlMillis ≤ Word.max64) {horizon : Nat} (early : horizon ≤ Word.max64) :
    (wired c plugins).opened.traffic.Orderly ∧
      (wired c plugins).opened.Resting horizon (wired c plugins).opened.store := by
  have registered : plugins.foldlM Gateway.register (.new c.dispatch.manager c.cache.replyCache) =
      .ok (wired c plugins) :=
    (Gateway.registerAll_new built.sided).mpr ⟨built.names ▸ names, rfl⟩
  have plain : ∀ x ∈ plugins, x.Plain := by
    intro x member
    obtain ⟨_, _, asked⟩ := built.from_mem member
    exact asked.plain
  have wired := (Gateway.wired_new _ _).registerAll plain registered
  refine Gateway.resting_started c.cache.configured wired built.start ?_ ?_
  · exact fun d ttl => CacheConfig.lasts_ttl fits early ttl
  · intro p e t found target d age
    rw [Gateway.entry?_opened] at found
    obtain ⟨e', there, rfl⟩ := Option.map_eq_some_iff.mp found
    obtain ⟨_, _, plugin, asked, same⟩ := built.mem_wired (Table.mem_of_at? there)
    cases same
    cases asked with
    | target kind s settled =>
      cases target
      exact settled.lasts rfl early age
    | origin => cases target

theorem Built.target (built : Built c.plugins plugins) (names : (c.plugins.map nameOf).Nodup)
    {x : String × PluginConfig} (member : x ∈ c.plugins) (kind : x.2.kind = .memoryTarget)
    {u : ResourceUri} (protocol : ProtocolName.of u.scheme = nameOf x) :
    (wired c plugins).opened.store.serves (.of u.scheme) = true ∧
      (wired c plugins).opened.store.content u =
        Table.at? (PluginConfig.stored [] x.2.resources) (u.authority ++ u.pathAndQuery) := by
  obtain ⟨plugin, _, asked, entry⟩ := built.entry names member
  have look := Gateway.outlook_opened (wired c plugins) (.of u.scheme)
  rw [protocol, entry, ← protocol] at look
  cases asked with
  | origin origin =>
    rw [kind] at origin
    cases origin
  | target _ s =>
    constructor
    · change (((wired c plugins).opened.frame.outlook (.of u.scheme)).map (·.hasClient)).getD false = true
      rw [look]
      rfl
    · change (((wired c plugins).opened.frame.outlook (.of u.scheme)).bind Outlook.target).bind _ = _
      rw [look]
      rfl

end Assembly

/-! Reading -/

def PluginConfig.answerTo (c : PluginConfig) (u : ResourceUri) : Answer :=
  match Table.at? c.resources (u.authority ++ u.pathAndQuery) with
  | some content => .value (Text.Utf8.encode content)
  | none => .rejected .pathNotFound

/-- The request is accepted and its caller is given the answer, in whatever order things happen. -/
def Gateway.AnswersWith (g : Gateway) (origin : ProtocolName) (r : Request) (x : Answer) : Prop :=
  ∃ h s k, g.submit origin r = (h, .ok (s, k)) ∧ h.Settles fun h' => h'.Gives k x

namespace Assembly

variable {c : Config} {plugins : List Plugin}

/-- Whatever a READ names at a target that has been configured is answered from its configuration. -/
theorem Built.answers (built : Built c.plugins plugins) (names : (c.plugins.map nameOf).Nodup)
    (fits : c.cache.defaultTtlMillis ≤ Word.max64) {x : String × PluginConfig} (member : x ∈ c.plugins)
    (kind : x.2.kind = .memoryTarget) (keys : (x.2.resources.map (·.1)).Nodup) {u : ResourceUri}
    (reread : u.Reread) (scheme : u.scheme = (nameOf x).text) {origin : ProtocolName}
    (known : origin ∈ (c.plugins.filter isOrigin).map nameOf) {r : Request} (fresh : r.sequence = 0)
    (reads : r.headers.operation = .read) (named : ResourceUri.parse r.headers.path = .ok u) {ms : Nat}
    (early : ms ≤ Word.max64) (lasts : ∀ d, r.headers.maxAge = some d → d.Lasts ms) :
    ((wired c plugins).opened.pass ms).AnswersWith origin r (x.2.answerTo u) := by
  obtain ⟨orderly, resting⟩ := built.resting names fits early
  have protocol : ProtocolName.of u.scheme = nameOf x := by
    have text : (ProtocolName.of u.scheme).text = (nameOf x).text := reread.protocol_text.trans scheme
    exact (ProtocolName.mk.injEq ..).mpr text
  obtain ⟨serves, content⟩ := built.target names member kind protocol
  have later : ((wired c plugins).opened.pass ms).Resting ms _ := resting.pass (Nat.zero_add ms).le
  have proper : Call.Proper ⟨origin, r, 0⟩ := by
    refine ⟨fresh, fun v same _ => ?_⟩
    cases named.symm.trans same
    exact reread
  obtain ⟨y, there, rfl⟩ := List.mem_map.mp known
  obtain ⟨plugin, _, _, entry⟩ := built.entry names (List.mem_of_mem_filter there)
  have found : ((wired c plugins).opened.frame.outlook (nameOf y)).isSome := by
    rw [Gateway.outlook_opened, entry]
    rfl
  obtain ⟨h, s, k, f, submitted, _, settles⟩ := later.submitted orderly proper found lasts
  refine ⟨h, s, k, submitted, settles.mono fun h' rested => rested.gives _ ?_⟩
  rw [Store.serve_served _ named serves, content, PluginConfig.at?_stored keys, Table.at?_nil,
    Option.or_none, reads]
  unfold PluginConfig.answerTo
  cases Table.at? x.2.resources (u.authority ++ u.pathAndQuery) with
  | some value => rfl
  | none => rfl

/-- The first READ of a configured resource by the name that its key spells is answered with its content
if authority and path of the name are the key again. Otherwise it is answered with whatever has been
configured under these, and mostly that is nothing. -/
theorem configured_resources_read {a : Assembly} (made : ofConfig c = .ok a)
    (fits : c.cache.defaultTtlMillis ≤ Word.max64) {x : String × PluginConfig} (member : x ∈ c.plugins)
    (kind : x.2.kind = .memoryTarget) (keys : (x.2.resources.map (·.1)).Nodup) {key value : String}
    (listed : (key, value) ∈ x.2.resources) {u : ResourceUri}
    (named : ResourceUri.parse (ResourceUri.routed (nameOf x).text key) = .ok u)
    (scheme : u.scheme = (nameOf x).text) {origin : ProtocolName} (known : origin ∈ a.origins)
    {r : Request} (fresh : r.sequence = 0) (reads : r.headers.operation = .read)
    (path : r.headers.path = ResourceUri.routed (nameOf x).text key) {ms : Nat}
    (early : ms ≤ Word.max64) (lasts : ∀ d, r.headers.maxAge = some d → d.Lasts ms) :
    ∃ g, a.start = ({ a with gateway := g }, .ok ()) ∧
      (u.authority ++ u.pathAndQuery = key →
        (g.pass ms).AnswersWith origin r (.value (Text.Utf8.encode value))) ∧
      ((Web.SchemeClass.of u.scheme ≠ .other → u.Reread) →
        (g.pass ms).AnswersWith origin r (x.2.answerTo u)) := by
  obtain ⟨plugins, built, names, rfl⟩ := ofConfig_iff.mp made
  have asked := path ▸ named
  have answers (reread : u.Reread) := built.answers names fits member kind keys reread scheme known
    fresh reads asked early lasts
  refine ⟨(wired c plugins).opened, ?_, fun spelled => ?_, fun back => ?_⟩
  · unfold Assembly.start
    dsimp only
    rw [built.start]
  · -- Such a name is found again under any scheme, so nothing is assumed of it.
    rw [← scheme, ← spelled] at named
    have own := answers (ResourceUri.reread_of_routed named)
    have content : Table.at? x.2.resources key = some value := Table.at?_of_mem keys listed
    unfold PluginConfig.answerTo at own
    rw [spelled, content] at own
    exact own
  · refine answers ?_
    by_cases other : Web.SchemeClass.of u.scheme = .other
    · exact ResourceUri.reread_other named other
    · exact back other

def sensorTarget : String × PluginConfig :=
  ("coap", ⟨.memoryTarget, none, [], [("dev/a b", "22"), ("dev/temp", "21")]⟩)

def sensorConfig : Config where
  host := "127.0.0.1"
  port := 8080
  dispatch := {}
  cache := {}
  metrics := {}
  plugins := [sensorTarget, ("http", ⟨.memoryOrigin, none, [], []⟩)]

def sensorAssembly : Assembly where
  config := sensorConfig
  gateway := (Gateway.new sensorConfig.dispatch.manager .off).enrolled
    [.target { MemoryTarget.new (.of "coap") with
      resources := [("dev/a b", [50, 50]), ("dev/temp", [50, 49])] }, .origin (.new (.of "http"))]
  origins := [.of "http"]

theorem sensor_assembled : ofConfig sensorConfig = .ok sensorAssembly := by
  decide +kernel

theorem temperature_read : ∃ g, sensorAssembly.start = ({ sensorAssembly with gateway := g }, .ok ()) ∧
    (g.pass 0).AnswersWith (.of "http") (.new .read "/coap/dev/temp") (.value [50, 49]) := by
  have listed : ("dev/temp", "21") ∈ sensorTarget.2.resources := by decide
  have named : ResourceUri.parse (ResourceUri.routed "coap" "dev/temp") =
      .ok ⟨"coap", "dev", "/temp", []⟩ := by decide +kernel
  have known : ProtocolName.of "http" ∈ sensorAssembly.origins := by decide
  have path : (Request.new .read "/coap/dev/temp").headers.path = ResourceUri.routed "coap" "dev/temp" := by
    decide +kernel
  have content : Text.Utf8.encode "21" = [50, 49] := by decide +kernel
  obtain ⟨g, started, spelled, _⟩ := configured_resources_read sensor_assembled (by decide)
    (x := sensorTarget) List.mem_cons_self rfl (by decide) listed named rfl known rfl rfl path
    (Nat.zero_le _) (fun d none => nomatch none)
  rw [content] at spelled
  exact ⟨g, started, spelled (by decide +kernel)⟩

def spacedRead : Gateway × Except LinkError (Sequence × Ticket) :=
  sensorAssembly.start.1.gateway.submit (.of "http")
    (.new .read (ResourceUri.routed "coap" "dev/a b"))

/-- A key with a space is no path: the name that it spells has an escape for it. -/
theorem spaced_key_unread :
    ¬∀ (c : Config) (a : Assembly), ofConfig c = .ok a → c.cache.defaultTtlMillis ≤ Word.max64 →
      ∀ x ∈ c.plugins, x.2.kind = .memoryTarget → (x.2.resources.map (·.1)).Nodup →
      ∀ (key value : String), (key, value) ∈ x.2.resources →
      ∀ u, ResourceUri.parse (ResourceUri.routed (nameOf x).text key) = .ok u →
        u.scheme = (nameOf x).text →
      ∀ origin ∈ a.origins, ∃ g, a.start = ({ a with gateway := g }, .ok ()) ∧
        g.AnswersWith origin (.new .read (ResourceUri.routed (nameOf x).text key))
          (.value (Text.Utf8.encode value)) := by
  intro all
  have named : ResourceUri.parse (ResourceUri.routed "coap" "dev/a b") =
      .ok ⟨"coap", "dev", "/a%20b", []⟩ := by decide +kernel
  obtain ⟨g, started, h, s, k, submitted, settles⟩ := all _ _ sensor_assembled (by decide)
    sensorTarget List.mem_cons_self rfl (by decide) "dev/a b" "22" (by decide) _ named rfl (.of "http")
    (by decide)
  have start : sensorAssembly.start.1.gateway = g := by rw [started]
  have accepted : spacedRead.2 = .ok (1, 0) := by decide +kernel
  have still : (Gateway.runFirst 12 spacedRead.1).tasks = [] := by decide +kernel
  have refused : ((Gateway.runFirst 12 spacedRead.1).wait 0 (.ofMillis 0)).2.toOption = none := by
    decide +kernel
  have read : spacedRead = (h, .ok (s, k)) := by
    unfold spacedRead
    rw [start]
    exact submitted
  rw [read] at accepted still refused
  cases accepted
  have gives := settles.of_runFirst 12 still (.ofMillis 0)
  cases outcome : ((Gateway.runFirst 12 h).wait 0 (.ofMillis 0)).2 with
  | ok reply =>
    rw [outcome] at refused
    cases refused
  | error e =>
    rw [outcome] at gives
    exact gives

end Assembly

end ProtocolGateway
