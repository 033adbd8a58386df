import Mathlib
import ProtocolGateway.Proofs.Plugin.DeclaredSettings
import ProtocolGateway.Server.Assembly

/-!
Plugins built from their configuration: which configurations can be built, and what comes of those that
can. A resource is stored under its key, which is cut at its first slash and joined again.
-/

namespace ProtocolGateway

namespace PluginConfig

/-- An authority, the first slash, and something behind it. -/
def IsResourceKey (key : String) : Prop :=
  ∃ authority path : String,
    key = authority ++ "/" ++ path ∧ '/' ∉ authority.toList ∧ authority ≠ "" ∧ path ≠ ""

/-- A setting that memory targets declare, with a value of its kind and within its bounds. -/
inductive TargetSetting : String × SettingValue → Prop where
  | maxAge (secs : Int) (least : 0 ≤ secs) (most : secs ≤ 86400) :
      TargetSetting ("max_age_secs", .integer secs)
  | notify (b : Bool) : TargetSetting ("notify_on_update", .bool b)

/-- A configuration that asks for nothing but what its kind of plugin has. -/
def Buildable (c : PluginConfig) : Prop :=
  match c.kind with
  | .memoryTarget => (∀ e ∈ c.resources, IsResourceKey e.1) ∧ ∀ e ∈ c.settings, TargetSetting e
  | .memoryOrigin => c.resources = [] ∧ c.settings = []

/-! Keys -/

theorem splitResource?_unsplit {key : String} (whole : '/' ∉ key.toList) :
    splitResource? key = none := by
  have all : key.toList.takeWhile (· ≠ '/') = key.toList :=
    List.takeWhile_eq_self_iff.mpr fun c member => decide_eq_true fun slash => whole (slash ▸ member)
  unfold splitResource?
  dsimp only
  rw [all, List.drop_length]

theorem splitResource?_cut {authority : String} (first : '/' ∉ authority.toList) (path : String) :
    splitResource? (authority ++ "/" ++ path) =
      if authority.toList.isEmpty || path.toList.isEmpty then none
      else some (authority, "/" ++ path) := by
  have chars : (authority ++ "/" ++ path).toList = authority.toList ++ '/' :: path.toList := by
    rw [String.toList_append, String.toList_append, List.append_assoc]
    rfl
  have inside : ∀ c ∈ authority.toList, decide (c ≠ '/') = true :=
    fun c member => decide_eq_true fun slash => first (slash ▸ member)
  have before : (authority.toList ++ '/' :: path.toList).takeWhile (· ≠ '/') = authority.toList := by
    rw [List.takeWhile_append_of_pos inside, List.takeWhile_cons_of_neg (by simp), List.append_nil]
  have joined : String.ofList ('/' :: path.toList) = "/" ++ path := by
    rw [← String.toList_inj, String.toList_ofList, String.toList_append]
    rfl
  unfold splitResource?
  dsimp only
  rw [chars, before, List.drop_left]
  dsimp only
  rw [joined, String.ofList_toList]

theorem IsResourceKey.split {key : String} (good : IsResourceKey key) :
    ∃ authority path, splitResource? key = some (authority, path) ∧
      MemoryTarget.keyOf authority path = key := by
  obtain ⟨authority, path, rfl, first, named, some⟩ := good
  refine ⟨authority, "/" ++ path, ?_, ?_⟩
  · rw [splitResource?_cut first path, if_neg (by simp [named, some])]
  · rw [MemoryTarget.keyOf, String.append_assoc]

theorem isResourceKey_of_split {key : String} (split : (splitResource? key).isSome = true) :
    IsResourceKey key := by
  by_cases slash : '/' ∈ key.toList
  · obtain ⟨before, behind, cut, first⟩ := List.eq_append_cons_of_mem slash
    have whole : key = String.ofList before ++ "/" ++ String.ofList behind := by
      rw [← String.toList_inj, cut]
      simp
    have first : '/' ∉ (String.ofList before).toList := by rwa [String.toList_ofList]
    rw [whole, splitResource?_cut first] at split
    refine ⟨_, _, whole, first, ?_, ?_⟩
    · intro unnamed
      rw [unnamed] at split
      simp at split
    · intro none
      rw [none] at split
      simp at split
  · rw [splitResource?_unsplit slash] at split
    cases split

/-! Resources -/

def stored (contents : Table String Octets) (resources : List (String × String)) : Table String Octets :=
  resources.foldl (fun t e => Table.put e.1 (Text.Utf8.encode e.2) t) contents

theorem seed_ok {t t' : MemoryTarget} {resources : List (String × String)}
    (seeded : seed t resources = .ok t') :
    (∀ e ∈ resources, IsResourceKey e.1) ∧ t' = { t with resources := stored t.resources resources } := by
  induction resources generalizing t with
  | nil =>
    cases seeded
    exact ⟨List.forall_mem_nil _, rfl⟩
  | cons e rest ih =>
    obtain ⟨key, content⟩ := e
    unfold seed at seeded
    cases parts : splitResource? key with
    | none =>
      rw [parts] at seeded
      cases seeded
    | some part =>
      obtain ⟨authority, path⟩ := part
      rw [parts] at seeded
      have good : IsResourceKey key := isResourceKey_of_split (by rw [parts]; rfl)
      obtain ⟨_, _, again, joined⟩ := good.split
      cases parts.symm.trans again
      obtain ⟨later, rfl⟩ := ih seeded
      refine ⟨List.forall_mem_cons.mpr ⟨good, later⟩, ?_⟩
      rw [MemoryTarget.insert, joined]
      rfl

theorem seed_of_keys (t : MemoryTarget) {resources : List (String × String)}
    (good : ∀ e ∈ resources, IsResourceKey e.1) : ∃ t', seed t resources = .ok t' := by
  induction resources generalizing t with
  | nil => exact ⟨t, rfl⟩
  | cons e rest ih =>
    obtain ⟨key, content⟩ := e
    obtain ⟨here, later⟩ := List.forall_mem_cons.mp good
    obtain ⟨authority, path, parts, _⟩ := IsResourceKey.split here
    unfold seed
    rw [parts]
    exact ih _ later

theorem at?_stored {resources : List (String × String)} (keys : (resources.map (·.1)).Nodup)
    (contents : Table String Octets) (key : String) :
    Table.at? (stored contents resources) key =
      ((Table.at? resources key).map Text.Utf8.encode).or (Table.at? contents key) := by
  induction resources generalizing contents with
  | nil => rfl
  | cons e rest ih =>
    obtain ⟨others, keys⟩ := List.nodup_cons.mp keys
    change Table.at? (stored (Table.put e.1 (Text.Utf8.encode e.2) contents) rest) key = _
    rw [ih keys, Table.at?_put, Table.at?_cons]
    by_cases here : e.1 = key
    · have none : Table.at? rest key = none := by
        cases found : Table.at? rest key with
        | none => rfl
        | some v =>
          have again : key ∈ rest.map (·.1) := List.mem_map_of_mem (Table.mem_of_at? found)
          rw [← here] at again
          exact absurd again others
      rw [if_pos here, if_pos here, none]
      rfl
    · rw [if_neg here, if_neg here]

end PluginConfig

/-! Settings -/

namespace Settings

variable {s : Settings}

theorem Outcome.of_eq_done {r : Except SettingsError Unit} : Outcome.of r = .done ↔ r = .ok () := by
  cases r <;> simp [Outcome.of]

theorem apply_ok_iff (s : Settings) (entries : List (String × SettingValue)) :
    (s.apply entries).2 = .ok () ↔ ∀ e ∈ entries, s.accepts e = true := by
  have ends : Outcome.of (s.apply entries).2 = _ := congrArg Prod.snd (s.perform_apply entries)
  rw [← Outcome.of_eq_done, ends]
  cases left : entries.dropWhile s.accepts with
  | nil => simpa using List.dropWhile_eq_nil_iff.mp left
  | cons e rest =>
    have unfit : s.accepts e = false := by
      have head := List.head?_dropWhile_not s.accepts entries
      rw [left] at head
      simpa using head
    have member : e ∈ entries := (List.dropWhile_sublist s.accepts).subset (left ▸ List.mem_cons_self)
    dsimp only
    constructor
    · intro done
      have fit : s.accepts e = true := decide_eq_true done
      rw [unfit] at fit
      cases fit
    · intro all
      rw [all e member] at unfit
      cases unfit

theorem validate_ok {s : Settings} (full : ∀ e ∈ s.specs, s.isMissing e = false) :
    s.validate = .ok () := by
  have none : s.specs.find? s.isMissing = none :=
    List.find?_eq_none.mpr fun e member => by simp [full e member]
  unfold validate
  rw [none]

end Settings

structure MemoryTarget.Settled (s : Settings) : Prop where
  sound : Settings.Sound declared s
  unlocked : s.locked = false

namespace MemoryTarget

open PluginConfig (TargetSetting)

theorem spec_declared (key : String) : declared.spec? key =
    if maxAgeKey = key then some { kind := .integer, range := some (0, 86400), default := some (.integer 0) }
    else if notifyKey = key then some { kind := .bool, default := some (.bool true) }
    else none := by
  have specs : declared.specs =
      [(maxAgeKey, { kind := .integer, range := some (0, 86400), default := some (.integer 0) }),
        (notifyKey, { kind := .bool, default := some (.bool true) })] := by decide +kernel
  rw [Settings.spec?, specs, Table.at?_cons, Table.at?_cons, Table.at?_nil]

theorem accepts_declared (e : String × SettingValue) :
    declared.accepts e = true ↔ TargetSetting e := by
  obtain ⟨key, value⟩ := e
  have fit : declared.accepts (key, value) = true ↔ _ := decide_eq_true_iff.trans Settings.perform_set_done
  rw [fit, spec_declared]
  constructor
  · rintro ⟨_, spec, found, kind, bounds⟩
    split at found
    · rename_i here
      cases found
      cases value <;> cases kind
      obtain ⟨least, most⟩ := bounds _ 0 86400 rfl rfl
      dsimp only at here
      rw [← here]
      exact .maxAge _ least most
    · split at found
      · rename_i here
        cases found
        cases value <;> cases kind
        dsimp only at here
        rw [← here]
        exact .notify _
      · cases found
  · intro known
    cases known with
    | maxAge secs least most =>
      refine ⟨rfl, _, rfl, rfl, ?_⟩
      rintro i min max same range
      cases same
      cases range
      exact ⟨least, most⟩
    | notify b => exact ⟨rfl, _, rfl, rfl, fun i _ _ same => nomatch same⟩

theorem settled_declared : Settled declared :=
  ⟨Settings.sound_declared [(maxAgeKey, _), (notifyKey, _)], by decide +kernel⟩

theorem Settled.apply {s : Settings} (settled : Settled s) (entries : List (String × SettingValue)) :
    Settled (s.apply entries).1 := by
  refine ⟨settled.sound.perform (.apply entries), ?_⟩
  have locks : (s.apply entries).1.locked = true ↔ _ := Settings.perform_locks s (.apply entries)
  simpa [settled.unlocked] using locks

theorem Settled.full {s : Settings} (settled : Settled s) : ∀ e ∈ s.specs, s.isMissing e = false := by
  have optional : ∀ e ∈ declared.specs, e.2.required = false := by decide +kernel
  intro e member
  rw [settled.sound.specs] at member
  rw [Settings.isMissing, optional e member]
  rfl

end MemoryTarget

/-! Plugins -/

namespace PluginConfig

variable {c : PluginConfig} {name : String}

inductive Asks (c : PluginConfig) (name : String) : Plugin → Prop where
  | target (kind : c.kind = .memoryTarget) (s : Settings) (settled : MemoryTarget.Settled s) :
      Asks c name (.target
        { MemoryTarget.new (.of (c.protocolName name)) with
          settings := s, resources := stored [] c.resources })
  | origin (kind : c.kind = .memoryOrigin) : Asks c name (.origin (.new (.of (c.protocolName name))))

theorem bare_target (kind : c.kind = .memoryTarget) (name : String) :
    c.bare name = (seed (.new (.of (c.protocolName name))) c.resources).map .target := by
  unfold PluginConfig.bare
  rw [kind]

theorem bare_origin (kind : c.kind = .memoryOrigin) (name : String) :
    c.bare name = if c.resources.isEmpty then .ok (.origin (.new (.of (c.protocolName name))))
      else .error (.resourcesOfOrigin name) := by
  unfold PluginConfig.bare
  rw [kind]

theorem build_of_bare {plugin : Plugin} (bare : c.bare name = .ok plugin)
    (applied : (plugin.settings.apply c.settings).2 = .ok ())
    (full : (plugin.settings.apply c.settings).1.validate = .ok ()) :
    c.build name = .ok (plugin.withSettings (plugin.settings.apply c.settings).1) := by
  unfold build
  rw [bare]
  dsimp only
  generalize plugin.settings.apply c.settings = result at applied full ⊢
  obtain ⟨s, r⟩ := result
  cases applied
  dsimp only at full ⊢
  rw [full]

theorem bare_of_build {plugin : Plugin} (built : c.build name = .ok plugin) :
    ∃ bare, c.bare name = .ok bare ∧ (bare.settings.apply c.settings).2 = .ok () ∧
      plugin = bare.withSettings (bare.settings.apply c.settings).1 := by
  unfold build at built
  cases bare : c.bare name with
  | error e =>
    rw [bare] at built
    cases built
  | ok plugin' =>
    rw [bare] at built
    dsimp only at built
    refine ⟨plugin', rfl, ?_⟩
    generalize plugin'.settings.apply c.settings = result at built ⊢
    obtain ⟨s, r⟩ := result
    cases r with
    | error => cases built
    | ok =>
      dsimp only at built
      split at built
      · cases built
      · exact ⟨rfl, (Except.ok.inj built).symm⟩

theorem build_of_buildable (good : c.Buildable) (name : String) :
    ∃ plugin, c.build name = .ok plugin := by
  unfold Buildable at good
  cases kind : c.kind with
  | memoryTarget =>
    rw [kind] at good
    obtain ⟨t, seeded⟩ := seed_of_keys (.new (.of (c.protocolName name))) good.1
    have bare : c.bare name = .ok (.target t) := by
      rw [bare_target kind, seeded]
      rfl
    obtain ⟨_, rfl⟩ := seed_ok seeded
    have applied : (MemoryTarget.declared.apply c.settings).2 = .ok () := by
      rw [Settings.apply_ok_iff]
      intro e member
      exact (MemoryTarget.accepts_declared e).mpr (good.2 e member)
    have settled := MemoryTarget.settled_declared.apply c.settings
    exact ⟨_, build_of_bare bare applied (Settings.validate_ok settled.full)⟩
  | memoryOrigin =>
    rw [kind] at good
    have bare : c.bare name = .ok (.origin (.new (.of (c.protocolName name)))) := by
      rw [bare_origin kind, good.1]
      rfl
    refine ⟨_, build_of_bare bare ?_ ?_⟩
    · rw [good.2]
      rfl
    · rw [good.2]
      rfl

/-- Whatever is built has been asked for, by a configuration that can be built. -/
theorem build_ok {plugin : Plugin} (built : c.build name = .ok plugin) :
    c.Buildable ∧ c.Asks name plugin := by
  obtain ⟨bare, begun, applied, rfl⟩ := bare_of_build built
  unfold Buildable
  cases kind : c.kind with
  | memoryTarget =>
    rw [bare_target kind] at begun
    cases seeded : seed (.new (.of (c.protocolName name))) c.resources with
    | error e =>
      rw [seeded] at begun
      cases begun
    | ok t =>
      rw [seeded] at begun
      cases begun
      obtain ⟨keys, rfl⟩ := seed_ok seeded
      have fit := (Settings.apply_ok_iff MemoryTarget.declared c.settings).mp applied
      refine ⟨⟨keys, fun e member => (MemoryTarget.accepts_declared e).mp (fit e member)⟩, ?_⟩
      exact .target kind _ (MemoryTarget.settled_declared.apply c.settings)
  | memoryOrigin =>
    rw [bare_origin kind] at begun
    split at begun
    · rename_i none
      cases begun
      have fit := (Settings.apply_ok_iff Settings.empty c.settings).mp applied
      have unset : c.settings = [] := by
        -- An origin declares nothing, so nothing can be set.
        cases settings : c.settings with
        | nil => rfl
        | cons e rest =>
          have refused : Settings.empty.accepts e = true := fit e (settings ▸ List.mem_cons_self)
          obtain ⟨_, _, unknown, _⟩ := Settings.perform_set_done.mp (of_decide_eq_true refused)
          cases unknown
      refine ⟨⟨List.isEmpty_iff.mp none, unset⟩, ?_⟩
      rw [unset]
      exact .origin kind
    · cases begun

theorem Asks.protocol {plugin : Plugin} (asked : c.Asks name plugin) :
    plugin.protocol = .of (c.protocolName name) := by
  cases asked <;> rfl

theorem Asks.sided {plugin : Plugin} (asked : c.Asks name plugin) :
    plugin.hasClient = true ∨ plugin.hasServer = true := by
  cases asked with
  | target => exact Or.inl rfl
  | origin => exact Or.inr rfl

end PluginConfig

end ProtocolGateway
