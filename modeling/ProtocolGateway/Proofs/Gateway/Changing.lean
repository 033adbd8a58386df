import Mathlib
import ProtocolGateway.Proofs.Gateway.Resting

/-!
A target is told of a request. It changes one resource, and what the cache has kept of the resource
is thrown out on the way of the acknowledgement.
-/

namespace ProtocolGateway

namespace Gateway

def Frame.after (f : Frame) (p : ProtocolName) (t : MemoryTarget) : Frame :=
  { f with
    outlook := fun q =>
      if p = q then (f.outlook q).map fun o => { o with target := some t } else f.outlook q }

structure Frame.Keeps (f f' : Frame) : Prop where
  now : f'.now = f.now
  known : ∀ p, (f.outlook p).isSome → (f'.outlook p).isSome

variable {g : Gateway} {f : Frame} {st : Store} {horizon : Nat} {p : ProtocolName}
  {t t' : MemoryTarget} {uri : ResourceUri}

theorem Frame.keeps_after (f : Frame) (p : ProtocolName) (t : MemoryTarget) : f.Keeps (f.after p t) where
  now := rfl
  known q known := by
    unfold Frame.after
    dsimp only
    split
    · rw [Option.isSome_map]
      exact known
    · exact known

/-! Targets -/

theorem Frame.Staffed.served (staffed : g.frame.Staffed) (served : g.frame.serves p = true) :
    ∃ e t, g.entry? p = some e ∧ e.plugin = .target t ∧ t.linked = true ∧ t.Heeds := by
  rw [serves_eq] at served
  cases found : g.entry? p with
  | none =>
    rw [found] at served
    cases served
  | some e =>
    rw [found] at served
    have look : g.frame.outlook p = some e.outlook := congrArg (Option.map PluginEntry.outlook) found
    obtain ⟨t, target⟩ := Option.isSome_iff_exists.mp ((staffed.clients p _ look).mp served)
    exact ⟨e, t, rfl, Plugin.eq_target target, staffed.targets p _ t look target⟩

theorem Frame.Sound.target (sound : f.Sound horizon) (found : f.targetOf uri = some t) :
    t.Sound horizon := by
  obtain ⟨o, look, target⟩ := Option.bind_eq_some_iff.mp found
  exact sound.targets _ o t look target

theorem handOver_target {e : PluginEntry} (found : g.entry? p = some e) (plugin : e.plugin = .target t)
    (linked : t.linked = true) (r : Request) :
    ∃ t' messages, (t.count r.headers.operation).Does r t' messages ∧
      g.handOver p (.toB (.request r)) = (g.setPlugin p (.target t')).enqueue (.respond p messages) := by
  have does := (t.count r.headers.operation).does_answer r
  have handled : e.plugin.handleRequest r = (.target ((t.count r.headers.operation).answer r).1,
      ((t.count r.headers.operation).answer r).2) := by
    have linked' : (t.count r.headers.operation).linked = true := linked
    rw [plugin]
    unfold Plugin.handleRequest MemoryTarget.handleRequest
    dsimp only
    rw [if_pos linked']
  refine ⟨_, _, does, ?_⟩
  unfold handOver
  rw [found]
  dsimp only
  rw [handled]
  dsimp only
  rw [if_neg]
  intro none
  exact does.told (List.isEmpty_iff.mp none)

theorem frame_setTarget {e : PluginEntry} (found : g.entry? p = some e) (plugin : e.plugin = .target t)
    (t' : MemoryTarget) : (g.setPlugin p (.target t')).frame = g.frame.after p t' := by
  have names : Table.keys (g.setPlugin p (.target t')).plugins = Table.keys g.plugins :=
    congrArg Course.names (g.course_updateEntry p _)
  have look : (g.setPlugin p (.target t')).outlook = (g.frame.after p t').outlook := by
    funext q
    unfold outlook setPlugin
    rw [entry?_updateEntry]
    change _ = if p = q then (g.outlook q).map fun o => { o with target := some t' } else g.outlook q
    unfold outlook
    by_cases here : p = q
    · subst here
      rw [if_pos rfl, if_pos rfl, found]
      have client : e.plugin.hasClient = true := by
        rw [plugin]
        rfl
      change some (Outlook.mk (some t') true _) = some (Outlook.mk (some t') e.plugin.hasClient _)
      rw [client]
      rfl
    · rw [if_neg here, if_neg here]
  unfold frame
  rw [look, names]
  rfl

theorem Calm.setTarget (calm : g.Calm) (p : ProtocolName) (t : MemoryTarget) :
    ∀ q e, entry? (g.setPlugin p (.target t)) q = some e → e.sink.queue = [] := by
  intro q e found
  exact calm.empty_updateEntry found fun _ => rfl

/-! What the targets hold -/

namespace Frame

theorem serves_after (f : Frame) (p : ProtocolName) (t : MemoryTarget) :
    (f.after p t).serves = f.serves := by
  funext q
  unfold serves after
  dsimp only
  split
  · cases f.outlook q <;> rfl
  · rfl

theorem targetOf_after (found : f.targetOf uri = some t) (t' : MemoryTarget) (u : ResourceUri) :
    (f.after (.of uri.scheme) t').targetOf u =
      if ProtocolName.of uri.scheme = .of u.scheme then some t' else f.targetOf u := by
  unfold targetOf after at *
  dsimp only
  split
  · rename_i same
    obtain ⟨o, look, _⟩ := Option.bind_eq_some_iff.mp found
    rw [← same, look]
    rfl
  · rfl

theorem contentOf_after (found : f.targetOf uri = some t) {content : Option Octets}
    (changed : ∀ key, Table.at? t'.resources key =
      if MemoryTarget.keyOf uri.authority uri.pathAndQuery = key then content
      else Table.at? t.resources key)
    (reread : uri.Reread) {u : ResourceUri} (other : u.Reread) :
    (f.after (.of uri.scheme) t').contentOf u = if u = uri then content else f.contentOf u := by
  unfold contentOf
  rw [targetOf_after found]
  by_cases protocol : ProtocolName.of uri.scheme = .of u.scheme
  · have target : f.targetOf u = some t := by
      unfold targetOf at found ⊢
      rw [← protocol]
      exact found
    rw [if_pos protocol, target]
    change Table.at? t'.resources (MemoryTarget.keyOf u.authority u.pathAndQuery) = _
    rw [changed]
    by_cases here : u = uri
    · rw [if_pos here, here, if_pos rfl]
    · have apart : MemoryTarget.keyOf uri.authority uri.pathAndQuery ≠
          MemoryTarget.keyOf u.authority u.pathAndQuery :=
        fun route => here (reread.eq_of_route other protocol route).symm
      rw [if_neg here, if_neg apart]
      rfl
  · have apart : u ≠ uri := fun here => protocol (here ▸ rfl)
    rw [if_neg protocol, if_neg apart]

theorem Holds.after (holds : f.Holds st) (found : f.targetOf uri = some t) {content : Option Octets}
    (changed : ∀ key, Table.at? t'.resources key =
      if MemoryTarget.keyOf uri.authority uri.pathAndQuery = key then content
      else Table.at? t.resources key)
    (reread : uri.Reread) : (f.after (.of uri.scheme) t').Holds (st.put uri content) where
  serves := holds.serves.trans (f.serves_after _ _).symm
  content u other := by
    rw [contentOf_after found changed reread other, ← holds.content u other]
    exact Function.update_apply _ _ _ _

theorem outlook_after (served : f.serves p = true) {q : ProtocolName} {o : Outlook}
    (found : (f.after p t').outlook q = some o) :
    f.outlook q = some o ∨ o.target = some t' ∧ o.hasClient = true ∧
      ∃ o', f.outlook q = some o' ∧ o.listens = o'.listens := by
  unfold Frame.after at found
  dsimp only at found
  split at found
  · rename_i here
    obtain ⟨o', found', rfl⟩ := Option.map_eq_some_iff.mp found
    unfold serves at served
    rw [here, found'] at served
    exact Or.inr ⟨rfl, served, o', found', rfl⟩
  · exact Or.inl found

theorem Staffed.after (staffed : f.Staffed) (served : f.serves p = true) (linked : t'.linked = true)
    (heeds : t'.Heeds) : (f.after p t').Staffed := by
  constructor
  case ready =>
    refine ⟨staffed.ready.running, staffed.ready.names, fun q o found => ?_⟩
    rcases outlook_after served found with before | ⟨_, _, o', before, same⟩
    · exact staffed.ready.listens q o before
    · rw [same]
      exact staffed.ready.listens q o' before
  case numbers => exact staffed.numbers
  case clients =>
    intro q o found
    rcases outlook_after served found with before | ⟨target, client, _⟩
    · exact staffed.clients q o before
    · rw [target, client]
      exact ⟨fun _ => rfl, fun _ => rfl⟩
  case targets =>
    intro q o t found target
    rcases outlook_after served found with before | ⟨target', _⟩
    · exact staffed.targets q o t before target
    · rw [target'] at target
      cases target
      exact ⟨linked, heeds⟩

theorem Sound.after (sound : f.Sound horizon) (served : f.serves p = true) (good : t'.Sound horizon) :
    (f.after p t').Sound horizon := by
  have staffed := sound.staffed.after served good.linked good.heeds
  refine ⟨staffed.ready, staffed.numbers, sound.early, staffed.clients, fun q o t found target => ?_⟩
  rcases outlook_after served found with before | ⟨target', _⟩
  · exact sound.targets q o t before target
  · rw [target'] at target
    cases target
    exact good

end Frame

end Gateway

/-! What is told -/

theorem MemoryTarget.Sound.does {horizon : Nat} {t t' : MemoryTarget} {r : Request} {o : Operation}
    {messages : List Message} (sound : t.Sound horizon) (does : (t.count o).Does r t' messages) :
    t'.Sound horizon where
  linked := does.settings.2.trans sound.linked
  heeds := does.heeds sound.heeds
  lasting d age := by
    have same : t'.maxAge = t.maxAge := by
      unfold MemoryTarget.maxAge
      rw [does.settings.1]
      rfl
    exact sound.lasting d (same ▸ age)

structure Told (f : Gateway.Frame) (uri : ResourceUri) (r : Request) (t t' : MemoryTarget)
    (messages : List Message) : Prop where
  reread : uri.Reread
  found : f.targetOf uri = some t
  does : (t.count r.headers.operation).Does (r.rerouted uri.authority uri.pathAndQuery) t' messages

namespace Told

open Gateway (Frame)

variable {f : Frame} {uri : ResourceUri} {r : Request} {t t' : MemoryTarget} {messages : List Message}
  {st : Store} {horizon : Nat}

def errand (uri : ResourceUri) (messages : List Message) (p : ProtocolName) (s : Sequence) (k : Ticket)
    (answer : Option Answer) (lifetime : Option Span) : Errand :=
  ⟨p, s, k, answer, .of uri.scheme, uri.text, (· ∈ messages), lifetime⟩

theorem content (told : Told f uri r t t' messages) :
    f.contentOf uri = t.resource? uri.authority uri.pathAndQuery := by
  unfold Frame.contentOf
  rw [told.found]
  rfl

theorem observes_self (told : Told f uri r t t' messages) :
    f.Observes uri ↔ t.isObserved uri.authority uri.pathAndQuery = true := by
  constructor
  · rintro ⟨t'', found, observed⟩
    cases told.found.symm.trans found
    exact observed
  · exact fun observed => ⟨t, told.found, observed⟩

/-- The operation makes of one observation what it does, and leaves the others. -/
theorem observes (told : Told f uri r t t' messages) (heeds : t.Heeds) {u : ResourceUri}
    (other : u.Reread) :
    (f.after (.of uri.scheme) t').Observes u ↔
      if u = uri then
        r.headers.operation.watched (f.contentOf uri).isSome
          (t.isObserved uri.authority uri.pathAndQuery) = true
      else f.Observes u := by
  unfold Frame.Observes
  rw [Frame.targetOf_after told.found]
  by_cases protocol : ProtocolName.of uri.scheme = .of u.scheme
  · have target : f.targetOf u = some t := by
      have found := told.found
      unfold Frame.targetOf at found ⊢
      rw [← protocol]
      exact found
    have observed := told.does.observed (t := t.count r.headers.operation) heeds
      (MemoryTarget.keyOf u.authority u.pathAndQuery)
    rw [if_pos protocol, target, told.content]
    have only (t : MemoryTarget) : (∃ t'', some t = some t'' ∧ t''.isObserved u.authority u.pathAndQuery = true) ↔
        t.observed.contains (MemoryTarget.keyOf u.authority u.pathAndQuery) = true :=
      ⟨fun ⟨_, same, observed⟩ => Option.some.inj same ▸ observed, fun observed => ⟨t, rfl, observed⟩⟩
    rw [only, only, observed]
    by_cases here : u = uri
    · rw [if_pos here, here]
      exact iff_of_eq (congrArg (· = true) (if_pos rfl))
    · have apart : MemoryTarget.keyOf uri.authority uri.pathAndQuery ≠
          MemoryTarget.keyOf u.authority u.pathAndQuery :=
        fun route => here (told.reread.eq_of_route other protocol route).symm
      rw [if_neg here]
      exact iff_of_eq (congrArg (· = true) (if_neg apart))
  · have apart : u ≠ uri := fun here => protocol (here ▸ rfl)
    rw [if_neg protocol, if_neg apart]

theorem changed (told : Told f uri r t t' messages) (key : String) :
    Table.at? t'.resources key =
      if MemoryTarget.keyOf uri.authority uri.pathAndQuery = key then
        (r.headers.operation.applied r.payload.data (f.contentOf uri)).1
      else Table.at? t.resources key := by
  rw [told.content]
  exact told.does.content key

theorem contentOf (told : Told f uri r t t' messages) {u : ResourceUri} (other : u.Reread) :
    (f.after (.of uri.scheme) t').contentOf u =
      if u = uri then (r.headers.operation.applied r.payload.data (f.contentOf uri)).1
      else f.contentOf u :=
  Frame.contentOf_after told.found told.changed told.reread other

theorem contentOf_self (told : Told f uri r t t' messages) :
    (f.after (.of uri.scheme) t').contentOf uri =
      Table.at? t'.resources (MemoryTarget.keyOf uri.authority uri.pathAndQuery) := by
  rw [told.contentOf told.reread, if_pos rfl, told.changed, if_pos rfl]

theorem about (told : Told f uri r t t' messages) {m : Message} (said : m ∈ messages) :
    m.isAbout (.of uri.scheme) uri.text := by
  obtain ⟨reply, target, path⟩ := told.does.route said
  refine ⟨reply, uri, ?_, rfl⟩
  rw [target, path]
  exact told.reread

theorem honest (told : Told f uri r t t' messages) (sound : f.Sound horizon)
    (good : t.Sound horizon) (lasts : ∀ d, r.headers.maxAge = some d → d.Lasts horizon)
    {lifetime : Option Span} (lasting : ∀ d, lifetime = some d → d.Lasts horizon) (p : ProtocolName)
    (s : Sequence) (k : Ticket) {answer : Option Answer}
    (answers : answer = (r.headers.operation.applied r.payload.data (f.contentOf uri)).2) :
    (errand uri messages p s k answer lifetime).Honest (f.after (.of uri.scheme) t') := by
  have does := told.does
  have here {u : ResourceUri} (reread : u.Reread) (same : u.text = uri.text) : u = uri :=
    reread.eq_of_text told.reread same
  constructor
  case about => exact fun m said => told.about said
  case suits =>
    intro m said a given
    refine does.fits said ?_ s
    rw [← given, answers, told.content]
    rfl
  case truth =>
    intro x said reads u reread same
    rw [here reread same, told.contentOf_self]
    exact does.truth said reads
  case lasting =>
    intro x said d age
    rcases does.lasts said age with own | named
    · exact (good.lasting d own).after sound.early
    · exact (lasts d named).after sound.early
  case unnamed => exact fun d ttl => (lasting d ttl).after sound.early
  -- A target that refuses says nothing else, and then the resource is absent.
  case unchanged =>
    intro x refused m said
    obtain ⟨alone, _⟩ := does.refused refused
    have said : m ∈ messages := said
    rw [alone] at said
    cases List.mem_singleton.mp said
    rfl
  case unheeded =>
    rintro x refused _ u reread same ⟨t'', target, observed⟩
    rw [here reread same, Frame.targetOf_after told.found, if_pos rfl] at target
    cases target
    have there := (good.does does).heeds _ observed
    have absent : Table.at? t'.resources (MemoryTarget.keyOf uri.authority uri.pathAndQuery) = none :=
      (does.refused refused).2
    rw [here reread same, absent] at there
    cases there

theorem heeded (told : Told f uri r t t' messages) (heeds : t.Heeds) {subscriptions : Subscriptions}
    (before : ∀ u : ResourceUri, u.Reread → f.Observes u →
      (r.headers.operation = .unobserve → u ≠ uri) → subscriptions.Observed u.text)
    (first : r.headers.operation = .observe → subscriptions.Observed uri.text) {u : ResourceUri}
    (reread : u.Reread) (observes : (f.after (.of uri.scheme) t').Observes u) :
    subscriptions.Observed u.text := by
  rw [told.observes heeds reread] at observes
  by_cases here : u = uri
  · rw [if_pos here] at observes
    rw [here]
    have kept (operation : r.headers.operation ≠ .unobserve)
        (observed : t.isObserved uri.authority uri.pathAndQuery = true) :
        subscriptions.Observed uri.text :=
      before uri told.reread (told.observes_self.mpr observed) fun ends => absurd ends operation
    cases operation : r.headers.operation <;> rw [operation] at observes
    case observe => exact first operation
    case unobserve | delete => cases observes
    case create | read | update => exact kept (by rw [operation]; decide) observes
  · rw [if_neg here] at observes
    exact before u reread observes fun _ => here

/-- Before anything has been said, what the cache holds is right unless the resource has changed; then
the acknowledgement will find somebody on record. -/
theorem stands {g : Gateway} (told : Told f uri r t t' messages) (calm : g.Calm) {p : ProtocolName}
    {s : Sequence} {k : Ticket} (begun : Gateway.Begun g p s k)
    (waits : r.headers.operation.isObserveFamily = false →
      0 < g.interconnection.subscriptions.waits uri.text p s)
    (heeds : ∀ u : ResourceUri, u.Reread → (f.after (.of uri.scheme) t').Observes u →
      g.interconnection.subscriptions.Observed u.text)
    (cached : ∀ u : ResourceUri, u.Reread → ∀ kept, g.interconnection.cache.Holds u.text kept →
      f.contentOf u = some kept.payload.data) {answer : Option Answer}
    (answers : answer = (r.headers.operation.applied r.payload.data (f.contentOf uri)).2) :
    (errand uri messages p s k answer g.interconnection.cache.ttl?).Stands
      (f.after (.of uri.scheme) t') (g.enqueue (.respond (.of uri.scheme) messages)) := by
  have coming (kind : Message → Bool) {m : Message} (said : m ∈ messages) (counts : kind m = true) :
      0 < (g.enqueue (.respond (.of uri.scheme) messages)).coming kind := by
    rw [calm.coming]
    exact List.countP_pos_iff.mpr ⟨m, said, counts⟩
  constructor
  case caller =>
    intro expected
    refine begun.caller (e := errand uri messages p s k answer _) calm (Or.inr ⟨waits ?_, ?_⟩)
    · by_contra family
      rw [answers, Operation.applied_family (eq_true_of_ne_false family)] at expected
      cases expected
    · obtain ⟨m, rest, same⟩ := List.exists_cons_of_ne_nil told.does.told
      rw [← calm.coming]
      exact coming _ (same ▸ List.mem_cons_self) rfl
  case tickets => exact begun.tickets
  case alone => exact begun.alone
  -- Only the resource itself can be out of date, and only by a change that is still acknowledged.
  case cached =>
    intro u reread kept held
    have before := cached u reread kept held
    by_cases here : u = uri
    · subst here
      by_cases same : (f.after (.of u.scheme) t').contentOf u = f.contentOf u
      · exact Or.inl (same.trans before)
      · right
        have plain : r.headers.operation.isObserveFamily = false := by
          by_contra family
          rw [told.contentOf reread, if_pos rfl,
            Operation.applied_family (eq_true_of_ne_false family)] at same
          exact same rfl
        rw [told.contentOf_self, told.content] at same
        obtain ⟨⟨m, said, acknowledges⟩, recorded⟩ := told.does.changes same
        refine ⟨rfl, coming _ said acknowledges, ⟨m, said, acknowledges⟩, recorded.imp ?_ fun all => ?_⟩
        · intro observed
          refine heeds u reread ⟨t', ?_, observed⟩
          rw [Frame.targetOf_after told.found, if_pos rfl]
        · exact ⟨Subscriptions.recorded_of_waits (waits plain), all⟩
    · left
      rw [told.contentOf reread, if_neg here]
      exact before
  case heeded => exact heeds
  case ttl => rfl

end Told

namespace Gateway

variable {g : Gateway} {st : Store} {horizon : Nat}

/-- The target of a resource has been handed a request and is about to answer. -/
structure Instructed (g : Gateway) (uri : ResourceUri) (r : Request) (t t' : MemoryTarget)
    (messages : List Message) (h : Gateway) : Prop where
  told : Told g.frame uri r t t' messages
  speaks : g.handOver (.of uri.scheme)
      (.toB (.request (r.rerouted uri.authority uri.pathAndQuery))) =
    h.enqueue (.respond (.of uri.scheme) messages)
  traffic : h.traffic = g.traffic
  frame : h.frame = g.frame.after (.of uri.scheme) t'
  calm : h.Calm

theorem Calm.instructed (calm : g.Calm) (staffed : g.frame.Staffed) {uri : ResourceUri}
    (reread : uri.Reread) (served : g.frame.serves (.of uri.scheme) = true) (r : Request) :
    ∃ t t' messages h, Instructed g uri r t t' messages h := by
  obtain ⟨e, t, found, plugin, linked, heeds⟩ := staffed.served served
  obtain ⟨t', messages, does, instructed⟩ :=
    handOver_target found plugin linked (r.rerouted uri.authority uri.pathAndQuery)
  have target : g.frame.targetOf uri = some t := by
    change (((g.entry? _).map PluginEntry.outlook).bind Outlook.target) = _
    rw [found]
    change e.plugin.target? = _
    rw [plugin]
    rfl
  have frame := frame_setTarget found plugin t'
  have ready : (Gateway.frame (g.setPlugin (.of uri.scheme) (.target t'))).Ready := by
    rw [frame]
    exact (staffed.after served (does.settings.2.trans linked) (does.heeds heeds)).ready
  exact ⟨t, t', messages, _, ⟨reread, target, does⟩, instructed, g.traffic_setPlugin _ _, frame,
    ⟨ready, calm.still, calm.setTarget (.of uri.scheme) t'⟩⟩

namespace Instructed

variable {uri : ResourceUri} {r : Request} {t t' : MemoryTarget} {messages : List Message} {h : Gateway}

theorem keeps (instructed : Instructed g uri r t t' messages h) : g.frame.Keeps h.frame := by
  rw [instructed.frame]
  exact g.frame.keeps_after (.of uri.scheme) t'

theorem stage (instructed : Instructed g uri r t t' messages h) : h.interconnection = g.interconnection :=
  congrArg Traffic.interconnection instructed.traffic

theorem moves (instructed : Instructed g uri r t t' messages h) {e : Errand} (sender : e.sender = .of uri.scheme)
    (said : ∀ m ∈ messages, e.tells m) : e.Moves h.frame (.respond (.of uri.scheme) messages) := by
  have present : (g.frame.outlook (.of uri.scheme)).isSome := by
    obtain ⟨o, look, _⟩ := Option.bind_eq_some_iff.mp instructed.told.found
    rw [look]
    rfl
  have present := instructed.keeps.known _ present
  rw [← sender] at present ⊢
  exact .speaks messages said present

end Instructed

/-- A target that is told of a request does to the map what the request says. -/
theorem Stocked.told (stocked : g.Stocked horizon st) {p : ProtocolName} {s : Sequence} {k : Ticket}
    (begun : Begun g p s k) {uri : ResourceUri} (reread : uri.Reread)
    (served : g.frame.serves (.of uri.scheme) = true) {r : Request}
    (waits : r.headers.operation.isObserveFamily = false →
      0 < g.interconnection.subscriptions.waits uri.text p s)
    (heeded : ∀ u : ResourceUri, u.Reread → g.frame.Observes u →
      (r.headers.operation = .unobserve → u ≠ uri) → g.interconnection.subscriptions.Observed u.text)
    (first : r.headers.operation = .observe → g.interconnection.subscriptions.Observed uri.text)
    (lasts : ∀ d, r.headers.maxAge = some d → d.Lasts horizon)
    (orderly : (g.handOver (.of uri.scheme)
      (.toB (.request (r.rerouted uri.authority uri.pathAndQuery)))).traffic.Orderly) :
    ∃ f, g.frame.Keeps f ∧
      (g.handOver (.of uri.scheme) (.toB (.request (r.rerouted uri.authority uri.pathAndQuery)))).Settles
        (Rested horizon
          (st.put uri (r.headers.operation.applied r.payload.data (st.content uri)).1) k
          (r.headers.operation.applied r.payload.data (st.content uri)).2 f) := by
  obtain ⟨t, t', messages, h, instructed⟩ := stocked.calm.instructed stocked.sound.staffed reread served r
  obtain ⟨told, frame, stage⟩ := And.intro instructed.told (And.intro instructed.frame instructed.stage)
  have good := stocked.sound.target told.found
  rw [instructed.speaks] at orderly ⊢
  have sound : h.frame.Sound horizon := frame ▸ stocked.sound.after served (good.does told.does)
  have content := stocked.holds.content uri reread
  have holds : h.frame.Holds (st.put uri
      (r.headers.operation.applied r.payload.data (st.content uri)).1) := by
    rw [frame, content]
    exact stocked.holds.after told.found told.changed reread
  have honest := told.honest stocked.sound good lasts stocked.lasting p s k rfl
  have stands := told.stands instructed.calm (begun.of_traffic instructed.traffic) (stage ▸ waits)
    (fun u reread observes => stage ▸ told.heeded good.heeds heeded first reread observes)
    (fun u reread kept held => by
      rw [stage] at held
      rw [← stocked.holds.content u reread]
      exact stocked.cached u reread kept held) rfl
  rw [← frame, ← content] at honest stands
  rw [← stage] at honest
  refine ⟨h.frame, instructed.keeps, ?_⟩
  refine Errand.Runs.rested ⟨instructed.calm.goes orderly ?_, stands⟩ honest sound holds
    (stage ▸ stocked.lasting)
  exact instructed.moves rfl fun m said => said

end Gateway

end ProtocolGateway
