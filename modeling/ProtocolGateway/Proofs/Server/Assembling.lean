import Mathlib
import ProtocolGateway.Proofs.Routing.Triples
import ProtocolGateway.Proofs.Server.Building
import ProtocolGateway.Server.Endpoint

/-!
Gateways put together from a configuration. The plugins are built and registered one after the other, so
all of them are there in the end or none is. Names are folded in four places, which agree: the manager's,
the origins', the one of a submission and the listing's.
-/

namespace ProtocolGateway

namespace Gateway

def enrolled (g : Gateway) (plugins : List Plugin) : Gateway :=
  { g with plugins := g.plugins ++ plugins.map fun x => (x.protocol, ⟨x.link, [], .wired⟩) }

variable {g g' : Gateway} {plugins : List Plugin}

theorem register_iff (created : g.phase = .created) {x : Plugin}
    (sided : x.hasClient = true ∨ x.hasServer = true) :
    g.register x = .ok g' ↔ x.protocol ∉ Table.keys g.plugins ∧ g' = g.enrolled [x] := by
  have able : (!x.hasClient && !x.hasServer) = false := by
    rcases sided with side | side <;> simp [side]
  unfold register
  dsimp only
  rw [if_neg (by simp [created]), able, if_neg Bool.false_ne_true]
  by_cases taken : x.protocol ∈ Table.keys g.plugins
  · rw [if_pos (Table.has_iff.mpr taken)]
    simp [taken]
  · rw [if_neg fun has => taken (Table.has_iff.mp has), Table.put_of_absent taken]
    simp [taken, enrolled, eq_comm]

/-- Plugins can be registered one after the other when their names differ from each other and from those
that are there. -/
theorem registerAll_iff (created : g.phase = .created) (names : (Table.keys g.plugins).Nodup)
    (sided : ∀ x ∈ plugins, x.hasClient = true ∨ x.hasServer = true) :
    plugins.foldlM Gateway.register g = .ok g' ↔
      (Table.keys g.plugins ++ plugins.map Plugin.protocol).Nodup ∧ g' = g.enrolled plugins := by
  -- The gateway grows by one entry a step, so the statement is about any gateway to begin with.
  induction plugins generalizing g with
  | nil =>
    have still : g.enrolled [] = g := by
      simp [enrolled]
    rw [still]
    simp [names, pure, Except.pure, eq_comm]
  | cons x rest ih =>
    obtain ⟨side, others⟩ := List.forall_mem_cons.mp sided
    have next : (g.enrolled [x]).enrolled rest = g.enrolled (x :: rest) := by
      simp [enrolled]
    have keys : Table.keys (g.enrolled [x]).plugins = Table.keys g.plugins ++ [x.protocol] := by
      simp [enrolled, Table.keys]
    rw [List.foldlM_cons]
    by_cases taken : x.protocol ∈ Table.keys g.plugins
    · cases first : g.register x with
      | error e =>
        simp only [bind, Except.bind, reduceCtorEq, false_iff, not_and]
        intro apart
        exact absurd rfl ((List.nodup_append.mp apart).2.2 _ taken _ List.mem_cons_self)
      | ok g₁ => exact absurd taken ((register_iff created side).mp first).1
    · have first := (register_iff created side).mpr ⟨taken, rfl⟩
      have fresh : (Table.keys (g.enrolled [x]).plugins).Nodup := by
        rw [keys]
        exact List.nodup_append.mpr ⟨names, List.nodup_singleton _, fun a there b new => by
          rw [List.mem_singleton.mp new]
          exact fun same => taken (same ▸ there)⟩
      rw [first]
      have rest' := ih (g := g.enrolled [x]) created fresh others
      rw [keys, next, List.append_assoc] at rest'
      exact rest'

theorem registerAll_new {config : ManagerConfig} {cache : ReplyCache}
    (sided : ∀ x ∈ plugins, x.hasClient = true ∨ x.hasServer = true) :
    plugins.foldlM Gateway.register (new config cache) = .ok g' ↔
      (plugins.map Plugin.protocol).Nodup ∧ g' = (new config cache).enrolled plugins :=
  registerAll_iff (g := new config cache) rfl List.nodup_nil sided

theorem entry_enrolled (created : (Table.keys g.plugins ++ plugins.map Plugin.protocol).Nodup)
    {x : Plugin} (member : x ∈ plugins) :
    entry? (g.enrolled plugins) x.protocol = some ⟨x.link, [], .wired⟩ := by
  have names : (Table.keys (g.enrolled plugins).plugins).Nodup := by
    simpa [enrolled, Table.keys, Function.comp_def] using created
  have there : (x.protocol, (⟨x.link, [], .wired⟩ : PluginEntry)) ∈ (g.enrolled plugins).plugins :=
    List.mem_append_right _ (List.mem_map.mpr ⟨x, member, rfl⟩)
  exact Table.at?_of_mem names there

theorem pairwise_protocols (names : (Table.keys g.plugins).Nodup) :
    g.protocols.Pairwise fun p q => p.before q = true := by
  have apart : g.protocols.Nodup := (List.mergeSort_perm _ _).nodup_iff.mpr names
  exact (Subscriptions.pairwise_names id _).imp₂ (fun _ _ => Subscriptions.before_of_ne) apart

theorem mem_protocols {p : ProtocolName} : p ∈ g.protocols ↔ p ∈ Table.keys g.plugins :=
  (List.mergeSort_perm _ _).mem_iff

end Gateway

/-! One plugin after the other -/

def Plugin.submits? : Plugin → Option ProtocolName
  | .origin o => some o.protocol
  | .target _ | .scripted _ => none

namespace Assembly

abbrev Built (xs : List (String × PluginConfig)) (plugins : List Plugin) : Prop :=
  List.Forall₂ (fun x plugin => x.2.build x.1 = .ok plugin) xs plugins

theorem addPlugin_ok {a a' : Assembly} {name : String} {c : PluginConfig} :
    a.addPlugin name c = .ok a' ↔ ∃ plugin g, c.build name = .ok plugin ∧
      a.gateway.register plugin = .ok g ∧
      a' = ⟨a.config, g, a.origins ++ plugin.submits?.toList⟩ := by
  unfold addPlugin
  cases built : c.build name with
  | error e => simp
  | ok plugin =>
    dsimp only
    cases registered : a.gateway.register plugin with
    | error e => simp [registered]
    | ok g =>
      cases plugin <;> simp [registered, Plugin.submits?, eq_comm]

theorem addPlugins_iff {a a' : Assembly} {xs : List (String × PluginConfig)} :
    a.addPlugins xs = .ok a' ↔ ∃ plugins g, Built xs plugins ∧
      plugins.foldlM Gateway.register a.gateway = .ok g ∧
      a' = ⟨a.config, g, a.origins ++ plugins.filterMap Plugin.submits?⟩ := by
  -- The induction is over the configurations, with whatever has been added before.
  induction xs generalizing a with
  | nil =>
    constructor
    · intro added
      rw [← Except.ok.inj added]
      exact ⟨[], a.gateway, .nil, rfl, by simp⟩
    · rintro ⟨plugins, g, built, registered, rfl⟩
      cases built
      cases registered
      simp [addPlugins]
  | cons x rest ih =>
    obtain ⟨name, c⟩ := x
    constructor
    · intro added
      unfold addPlugins at added
      cases first : a.addPlugin name c with
      | error e =>
        rw [first] at added
        cases added
      | ok a₁ =>
        rw [first] at added
        obtain ⟨plugin, g₁, built, registered, rfl⟩ := addPlugin_ok.mp first
        obtain ⟨plugins, g, others, later, rfl⟩ := ih.mp added
        refine ⟨plugin :: plugins, g, .cons built others, ?_, ?_⟩
        · rw [List.foldlM_cons, registered]
          exact later
        · cases plugin <;> simp [Plugin.submits?, List.filterMap_cons]
    · rintro ⟨plugins, g, built, registered, rfl⟩
      cases built with
      | @cons _ plugin _ plugins built others =>
        rw [List.foldlM_cons] at registered
        cases first : a.gateway.register plugin with
        | error e =>
          rw [first] at registered
          cases registered
        | ok g₁ =>
          rw [first] at registered
          unfold addPlugins
          rw [addPlugin_ok.mpr ⟨plugin, g₁, built, first, rfl⟩]
          refine ih.mpr ⟨plugins, g, others, registered, ?_⟩
          cases plugin <;> simp [Plugin.submits?, List.filterMap_cons]

/-! Names -/

def nameOf (x : String × PluginConfig) : ProtocolName := .of (x.2.protocolName x.1)

def isOrigin (x : String × PluginConfig) : Bool := x.2.kind = .memoryOrigin

variable {xs : List (String × PluginConfig)} {plugins : List Plugin}

theorem nameOf_eq_iff {x y : String × PluginConfig} : nameOf x = nameOf y ↔
    Text.Ascii.lower (x.2.protocolName x.1) = Text.Ascii.lower (y.2.protocolName y.1) :=
  ProtocolName.mk.injEq .. ▸ Iff.rfl

theorem Built.names (built : Built xs plugins) : plugins.map Plugin.protocol = xs.map nameOf := by
  induction built with
  | nil => rfl
  | cons here _ ih => rw [List.map_cons, List.map_cons, ih, (PluginConfig.build_ok here).2.protocol, nameOf]

theorem Built.origins (built : Built xs plugins) :
    plugins.filterMap Plugin.submits? = (xs.filter isOrigin).map nameOf := by
  induction built with
  | nil => rfl
  | cons here _ ih =>
    obtain ⟨_, asked⟩ := PluginConfig.build_ok here
    rw [List.filterMap_cons, List.filter_cons]
    cases asked with
    | target kind => simp [Plugin.submits?, isOrigin, kind, ih]
    | origin kind =>
      simp [Plugin.submits?, isOrigin, kind, ih, nameOf, MemoryOrigin.new]

theorem Built.sided (built : Built xs plugins) :
    ∀ x ∈ plugins, x.hasClient = true ∨ x.hasServer = true := by
  induction built with
  | nil => exact List.forall_mem_nil _
  | cons here _ ih => exact List.forall_mem_cons.mpr ⟨(PluginConfig.build_ok here).2.sided, ih⟩

theorem Built.of_mem (built : Built xs plugins) {x : String × PluginConfig} (member : x ∈ xs) :
    ∃ plugin ∈ plugins, x.2.build x.1 = .ok plugin := by
  induction built with
  | nil => cases member
  | cons here _ ih =>
    rcases List.mem_cons.mp member with rfl | later
    · exact ⟨_, List.mem_cons_self, here⟩
    · obtain ⟨plugin, there, made⟩ := ih later
      exact ⟨plugin, List.mem_cons_of_mem _ there, made⟩

theorem built_iff : (∃ plugins, Built xs plugins) ↔ ∀ x ∈ xs, x.2.Buildable := by
  constructor
  · rintro ⟨plugins, built⟩ x member
    obtain ⟨plugin, _, made⟩ := built.of_mem member
    exact (PluginConfig.build_ok made).1
  · intro good
    induction xs with
    | nil => exact ⟨[], .nil⟩
    | cons x rest ih =>
      obtain ⟨here, later⟩ := List.forall_mem_cons.mp good
      obtain ⟨plugin, made⟩ := PluginConfig.build_of_buildable here x.1
      obtain ⟨plugins, built⟩ := ih later
      exact ⟨plugin :: plugins, .cons made built⟩

/-! The whole -/

abbrev wired (c : Config) (plugins : List Plugin) : Gateway :=
  (Gateway.new c.dispatch.manager c.cache.replyCache).enrolled plugins

theorem Built.entry {c : Config} (built : Built c.plugins plugins) (names : (c.plugins.map nameOf).Nodup)
    {x : String × PluginConfig} (member : x ∈ c.plugins) :
    ∃ plugin, x.2.build x.1 = .ok plugin ∧ x.2.Asks x.1 plugin ∧
      Gateway.entry? (wired c plugins) (nameOf x) = some ⟨plugin.link, [], .wired⟩ := by
  obtain ⟨plugin, there, made⟩ := built.of_mem member
  obtain ⟨_, asked⟩ := PluginConfig.build_ok made
  refine ⟨plugin, made, asked, ?_⟩
  rw [nameOf, ← asked.protocol]
  exact Gateway.entry_enrolled (by rw [built.names]; exact names) there

/-- A configuration's gateway is one in which its plugins, with names that differ, have been registered. -/
theorem ofConfig_iff {c : Config} {a : Assembly} : ofConfig c = .ok a ↔
    ∃ plugins, Built c.plugins plugins ∧ (c.plugins.map nameOf).Nodup ∧
      a = ⟨c, wired c plugins, (c.plugins.filter isOrigin).map nameOf⟩ := by
  unfold ofConfig
  rw [addPlugins_iff]
  constructor
  · rintro ⟨plugins, g, built, registered, rfl⟩
    obtain ⟨names, rfl⟩ := (Gateway.registerAll_new built.sided).mp registered
    refine ⟨plugins, built, ?_, ?_⟩
    · rw [← built.names]
      exact names
    · rw [built.origins]
      rfl
  · rintro ⟨plugins, built, names, rfl⟩
    refine ⟨plugins, _, built, (Gateway.registerAll_new built.sided).mpr ⟨?_, rfl⟩, ?_⟩
    · rw [built.names]
      exact names
    · rw [built.origins]
      rfl

theorem origin?_iff {a : Assembly} {segment : String} {p : ProtocolName} :
    a.origin? segment = some p ↔ p ∈ a.origins ∧ p.text = Text.Ascii.lower segment := by
  have same : p.text = Text.Ascii.lower segment ↔ ProtocolName.of segment = p := by
    obtain ⟨text, folded⟩ := p
    exact ⟨fun here => by subst here; rfl, fun here => (congrArg ProtocolName.text here).symm⟩
  unfold origin?
  rw [same]
  by_cases known : ProtocolName.of segment ∈ a.origins
  · rw [if_pos (by simpa using known)]
    constructor
    · intro here
      cases here
      exact ⟨known, rfl⟩
    · rintro ⟨_, rfl⟩
      rfl
  · rw [if_neg (by simpa using known)]
    constructor
    · intro none
      cases none
    · rintro ⟨there, rfl⟩
      exact absurd there known

end Assembly

namespace Endpoint

/-- However an exchange ends, its answer is not that there is no such origin. -/
theorem status_ofOutcome (outcome : Except LinkError Reply) : (ofOutcome outcome).status ≠ 404 := by
  cases outcome with
  | ok r => exact (by decide : 200 ≠ 404)
  | error e =>
    cases e with
    | rejected => exact (by decide : 502 ≠ 404)
    | timeout => exact (by decide : 504 ≠ 404)
    | protocol => exact (by decide : 400 ≠ 404)
    | notReady | closed => exact (by decide : 503 ≠ 404)

theorem status_submit (a : Assembly) (segment : String) (s : Submission) :
    (submit a segment s).2.status = 404 ↔ a.origin? segment = none := by
  unfold submit
  cases found : a.origin? segment with
  | none => exact ⟨fun _ => rfl, fun _ => rfl⟩
  | some origin =>
    dsimp only
    simp [status_ofOutcome]

end Endpoint

/-- A gateway as its callers find it: which plugins it has under which names, where requests can be
submitted, and what is said of it. -/
structure Assembly.Shows (a : Assembly) (c : Config) : Prop where
  sorted : a.gateway.protocols.Pairwise fun p q => p.before q = true
  protocols : ∀ p, p ∈ a.gateway.protocols ↔
    ∃ x ∈ c.plugins, p.text = Text.Ascii.lower (x.2.protocolName x.1)
  registered : ∀ x ∈ c.plugins, ∃ plugin, x.2.build x.1 = .ok plugin ∧
    plugin.protocol = .of (x.2.protocolName x.1) ∧
    a.gateway.entry? plugin.protocol = some ⟨plugin.link, [], .wired⟩
  once : a.origins.Nodup
  origins : ∀ p, p ∈ a.origins ↔
    ∃ x ∈ c.plugins, x.2.kind = .memoryOrigin ∧ p.text = Text.Ascii.lower (x.2.protocolName x.1)
  served : ∀ p ∈ a.origins, ∃ o, (a.gateway.entry? p).map (·.plugin) = some (.origin o) ∧ o.protocol = p
  found : ∀ segment, (a.origin? segment).isSome = true ↔ ∃ x ∈ c.plugins, x.2.kind = .memoryOrigin ∧
    Text.Ascii.lower segment = Text.Ascii.lower (x.2.protocolName x.1)
  unknown : ∀ segment s, (Endpoint.submit a segment s).2.status = 404 ↔ a.origin? segment = none
  listed : Endpoint.plugins a = .withJson 200 [("plugins", .list (c.plugins.map fun x => .ofMembers
    [("name", .text x.1), ("protocol", .text (Text.Ascii.lower (x.2.protocolName x.1))),
      ("kind", .text x.2.kind.name)]))]

namespace Assembly

theorem text_eq_iff {p : ProtocolName} {x : String × PluginConfig} :
    p.text = Text.Ascii.lower (x.2.protocolName x.1) ↔ p = nameOf x :=
  ⟨fun same => by cases p; cases same; rfl, fun same => by rw [same]; rfl⟩

theorem mem_origins {c : Config} {p : ProtocolName} : p ∈ (c.plugins.filter isOrigin).map nameOf ↔
    ∃ x ∈ c.plugins, x.2.kind = .memoryOrigin ∧ p.text = Text.Ascii.lower (x.2.protocolName x.1) := by
  simp only [List.mem_map, List.mem_filter, isOrigin, decide_eq_true_eq, text_eq_iff, and_assoc,
    eq_comm (a := p)]

theorem Built.shows {c : Config} {plugins : List Plugin} (built : Built c.plugins plugins)
    (names : (c.plugins.map nameOf).Nodup) :
    Shows ⟨c, wired c plugins, (c.plugins.filter isOrigin).map nameOf⟩ c := by
  have keys : Table.keys (wired c plugins).plugins = c.plugins.map nameOf := by
    rw [← built.names]
    simp [Gateway.enrolled, Gateway.new, Table.keys, Function.comp_def]
  constructor
  case sorted =>
    apply Gateway.pairwise_protocols
    rw [keys]
    exact names
  case protocols =>
    intro p
    rw [Gateway.mem_protocols, keys, List.mem_map]
    simp only [text_eq_iff, eq_comm (a := p)]
  case registered =>
    intro x member
    obtain ⟨plugin, made, asked, entry⟩ := built.entry names member
    rw [nameOf, ← asked.protocol] at entry
    exact ⟨plugin, made, asked.protocol, entry⟩
  case once => exact (List.filter_sublist.map nameOf).nodup names
  case origins => exact fun p => mem_origins
  case served =>
    intro p origin
    obtain ⟨x, member, kind, same⟩ := mem_origins.mp origin
    obtain ⟨plugin, _, asked, entry⟩ := built.entry names member
    rw [text_eq_iff.mp same, entry]
    cases asked with
    | target target =>
      rw [kind] at target
      cases target
    | origin => exact ⟨_, rfl, rfl⟩
  case found =>
    intro segment
    rw [Option.isSome_iff_exists]
    simp only [origin?_iff, mem_origins]
    constructor
    · rintro ⟨p, ⟨x, member, kind, named⟩, asked⟩
      exact ⟨x, member, kind, asked.symm.trans named⟩
    · rintro ⟨x, member, kind, same⟩
      exact ⟨nameOf x, ⟨x, member, kind, rfl⟩, same.symm⟩
  case unknown => exact fun segment s => Endpoint.status_submit _ segment s
  case listed =>
    unfold Endpoint.plugins Endpoint.listing
    rw [List.map_map]
    rfl

end Assembly

/-- Which configurations a gateway can be put together from, and what it is then. Each resource key has to
have an authority and a path, an origin no resources and no settings, a target only settings that it
declares, and no two names may be equal up to ASCII case. -/
theorem Assembly.assembles_as_configured (c : Config) :
    ((∃ a, Assembly.ofConfig c = .ok a) ↔ (∀ x ∈ c.plugins, x.2.Buildable) ∧
      c.plugins.Pairwise fun x y =>
        Text.Ascii.lower (x.2.protocolName x.1) ≠ Text.Ascii.lower (y.2.protocolName y.1)) ∧
    ∀ a, Assembly.ofConfig c = .ok a → a.Shows c := by
  have apart : (c.plugins.map nameOf).Nodup ↔ c.plugins.Pairwise fun x y =>
      Text.Ascii.lower (x.2.protocolName x.1) ≠ Text.Ascii.lower (y.2.protocolName y.1) := by
    rw [List.Nodup, List.pairwise_map]
    simp only [ne_eq, nameOf_eq_iff]
  constructor
  · rw [← built_iff, ← apart]
    constructor
    · rintro ⟨a, made⟩
      obtain ⟨plugins, built, names, _⟩ := ofConfig_iff.mp made
      exact ⟨⟨plugins, built⟩, names⟩
    · rintro ⟨⟨plugins, built⟩, names⟩
      exact ⟨_, ofConfig_iff.mpr ⟨plugins, built, names, rfl⟩⟩
  · intro a made
    obtain ⟨plugins, built, names, rfl⟩ := ofConfig_iff.mp made
    exact built.shows names

end ProtocolGateway
